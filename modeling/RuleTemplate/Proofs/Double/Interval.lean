import Mathlib.Algebra.Order.Field.Power
import Mathlib.Algebra.Order.Ring.Rat
import Mathlib.Data.Rat.Cast.Order
import Mathlib.Tactic.FieldSimp
import Mathlib.Tactic.Linarith
import Mathlib.Tactic.NormNum
import Mathlib.Tactic.Positivity
import Mathlib.Tactic.Ring
import RuleTemplate.Double.Shortest

/-!
The rationals that round to a float. The interval of a float ends where that of the next one
begins, and the end belongs to one of the two only, so a rational lies in the interval of one
float at most. The shortest decimal for a float lies in the float's interval.
-/
namespace RuleTemplate.Double

def Decimal.value (d : Decimal) : ℚ := d.digits * 10 ^ d.exponent

theorem scale_pos (g e : Int) : 0 < (scale g e).2 :=
  Nat.mul_pos (Nat.pow_pos (by decide)) (Nat.pow_pos (by decide))

theorem zpow_mul_toNat {a : ℚ} (ha : a ≠ 0) (n : Int) : a ^ n * a ^ (-n).toNat = a ^ n.toNat := by
  rw [← zpow_natCast, ← zpow_natCast, ← zpow_add₀ ha]
  congr 1
  omega

theorem scale_ratio (g e : Int) :
    ((scale g e).1 : ℚ) * 2 ^ e = (scale g e).2 * 10 ^ g := by
  have hten := zpow_mul_toNat (a := 10) (by norm_num) g
  have htwo := zpow_mul_toNat (a := 2) (by norm_num) e
  simp only [scale, Nat.pow_eq, Nat.cast_mul, Nat.cast_pow, Nat.cast_ofNat]
  rw [← hten, ← htwo]
  ring

namespace Interval

variable {i : Interval}

def lower (i : Interval) : ℚ := i.low * 2 ^ i.exponent

def upper (i : Interval) : ℚ := i.high * 2 ^ i.exponent

def Holds (i : Interval) (v : ℚ) : Prop :=
  if i.closed then i.lower ≤ v ∧ v ≤ i.upper else i.lower < v ∧ v < i.upper

theorem Holds.le {v : ℚ} (h : i.Holds v) : i.lower ≤ v ∧ v ≤ i.upper := by
  unfold Holds at h
  split at h
  · exact h
  · exact ⟨h.1.le, h.2.le⟩

theorem Holds.lt {v : ℚ} (h : i.Holds v) (hopen : i.closed = false) :
    i.lower < v ∧ v < i.upper := by
  rwa [Holds, hopen, if_neg Bool.false_ne_true] at h

theorem holds_of_lt {v : ℚ} (hlower : i.lower < v) (hupper : v < i.upper) : i.Holds v := by
  unfold Holds
  split
  · exact ⟨hlower.le, hupper.le⟩
  · exact ⟨hlower, hupper⟩

section Grid

variable (i) (g : Int)

/-- In the common scale of the interval and of the grid, both are magnified alike. -/
theorem exists_magnification : ∃ c : ℚ, 0 < c ∧ ∀ n : Nat,
    ((n * (scale g i.exponent).2 : Nat) : ℚ) = n * 2 ^ i.exponent * c ∧
    ((n * (scale g i.exponent).1 : Nat) : ℚ) = n * 10 ^ g * c := by
  have hunit : (0 : ℚ) < (scale g i.exponent).2 := by exact_mod_cast scale_pos g i.exponent
  have hpow : (0 : ℚ) < 2 ^ i.exponent := by positivity
  have hratio := scale_ratio g i.exponent
  refine ⟨(scale g i.exponent).2 / 2 ^ i.exponent, by positivity, fun n => ⟨?_, ?_⟩⟩
  · rw [Nat.cast_mul]
    field_simp
  · rw [Nat.cast_mul, mul_assoc, mul_div_assoc', mul_comm (10 ^ g : ℚ), ← hratio]
    field_simp

theorem mul_unit_le_iff (n digits : Nat) :
    n * (scale g i.exponent).2 ≤ digits * (scale g i.exponent).1 ↔
      (n * 2 ^ i.exponent : ℚ) ≤ digits * 10 ^ g := by
  obtain ⟨c, hc, hcast⟩ := i.exists_magnification g
  rw [← Nat.cast_le (α := ℚ), (hcast n).1, (hcast digits).2, mul_le_mul_iff_left₀ hc]

theorem le_mul_unit_iff (n digits : Nat) :
    digits * (scale g i.exponent).1 ≤ n * (scale g i.exponent).2 ↔
      (digits * 10 ^ g : ℚ) ≤ n * 2 ^ i.exponent := by
  obtain ⟨c, hc, hcast⟩ := i.exists_magnification g
  rw [← Nat.cast_le (α := ℚ), (hcast n).1, (hcast digits).2, mul_le_mul_iff_left₀ hc]

theorem contains_iff (digits : Nat) :
    i.contains (scale g i.exponent).2 (digits * (scale g i.exponent).1) = true ↔
      i.Holds (digits * 10 ^ g) := by
  unfold contains Holds
  split
  · rw [Bool.and_eq_true, decide_eq_true_iff, decide_eq_true_iff, mul_unit_le_iff,
      le_mul_unit_iff, lower, upper]
  · rw [Bool.and_eq_true, decide_eq_true_iff, decide_eq_true_iff, ← not_le,
      le_mul_unit_iff, ← not_le, mul_unit_le_iff, lower, upper, not_le, not_le]

/-- A grid point that is picked lies in the interval. -/
theorem holds_gridPoint {tie : Tie} {digits : Nat} (h : i.gridPoint tie g = some digits) :
    i.Holds (digits * 10 ^ g) := by
  rw [← contains_iff]
  simp only [gridPoint] at h
  generalize hbelow : i.middle * (scale g i.exponent).2 / (scale g i.exponent).1 = below at h
  split at h
  · simp at h
  · next hfirst _ => exact Option.some.inj h ▸ hfirst
  · next _ hsecond => exact Option.some.inj h ▸ hsecond
  · next hfirst hsecond =>
    have hdigits : digits = below ∨ digits = below + 1 := by
      split at h
      · exact Or.inl (Option.some.inj h).symm
      · split at h
        · exact Or.inr (Option.some.inj h).symm
        · cases tie with
          | up => exact Or.inr (Option.some.inj h).symm
          | even =>
            obtain rfl := Option.some.inj h
            omega
    rcases hdigits with rfl | rfl
    · exact hfirst
    · exact hsecond

end Grid

/-- The point of the coarsest grid lies in the interval, if the middle does and is a point of the
finest grid. -/
theorem holds_coarsest (hmiddle : i.Holds (i.middle * 2 ^ i.exponent)) (tie : Tie) (steps : Nat)
    (g : Int) (hfinest : (scale (g - steps) i.exponent).1 ∣
      i.middle * (scale (g - steps) i.exponent).2) :
    i.Holds (i.coarsest tie steps g).value := by
  induction steps generalizing g with
  | zero =>
    rw [Nat.cast_zero, sub_zero] at hfinest
    obtain ⟨c, hc, hcast⟩ := i.exists_magnification g
    have hpoint := Nat.div_mul_cancel hfinest
    have hvalue : (i.coarsest tie 0 g).value = i.middle * 2 ^ i.exponent := by
      refine mul_right_cancel₀ hc.ne' ?_
      rw [← (hcast i.middle).1, ← hpoint, (hcast _).2]
      rfl
    rwa [hvalue]
  | succ steps ih =>
    rw [coarsest]
    cases hpoint : i.gridPoint tie g with
    | some digits => exact holds_gridPoint i g hpoint
    | none =>
      refine ih (g - 1) ?_
      have hgrid : g - 1 - steps = g - (steps + 1 : Nat) := by omega
      rwa [hgrid]

end Interval

section Neighbours

variable {x y : Double}

/-- The next float has the next significand, or it is the first one with a greater exponent. -/
theorem next_cases (h : y.code = x.code + 1) :
    (y.significand = x.significand + 1 ∧ y.exponent = x.exponent ∧
      ¬(y.significand = 2 ^ 52 ∧ 2 ^ 53 ≤ y.code)) ∨
    (x.significand = 2 ^ 53 - 1 ∧ y.significand = 2 ^ 52 ∧ y.exponent = x.exponent + 1 ∧
      2 ^ 53 ≤ y.code) := by
  simp only [significand, exponent, h, Nat.pow_eq, Nat.reducePow]
  split <;> split <;> omega

theorem upper_eq_lower (h : y.code = x.code + 1) : x.interval.upper = y.interval.lower := by
  simp only [Interval.upper, Interval.lower, interval]
  rcases next_cases h with ⟨hsignificand, hexponent, hhalf⟩ | ⟨hx, hy, hexponent, hcode⟩
  · rw [Nat.pow_eq, Nat.pow_eq, if_neg hhalf, hexponent, hsignificand]
    congr 2
  · have hpow : (2 : ℚ) ^ (x.exponent + 1 - 2) = 2 * 2 ^ (x.exponent - 2) := by
      rw [← zpow_one_add₀ (by norm_num)]
      congr 1
      omega
    rw [Nat.pow_eq, Nat.pow_eq, if_pos ⟨hy, hcode⟩, hexponent, hx, hy, hpow]
    norm_num
    ring

/-- Of two neighbours one has an even significand. -/
theorem closed_eq_not_closed (h : y.code = x.code + 1) :
    x.interval.closed = !y.interval.closed := by
  simp only [interval]
  rcases next_cases h with ⟨hsignificand, -⟩ | ⟨hx, hy, -⟩
  · rw [hsignificand, Bool.eq_iff_iff]
    simp only [beq_iff_eq, Bool.not_eq_true', beq_eq_false_iff_ne]
    omega
  · rw [hx, hy]
    rfl

theorem significand_pos (hx : x.isZero = false) : 0 < x.significand := by
  have hcode : x.code ≠ 0 := by simpa [isZero] using hx
  simp only [significand, Nat.pow_eq, Nat.reducePow]
  split <;> omega

theorem lower_lt_middle (hx : x.isZero = false) :
    x.interval.lower < x.interval.middle * 2 ^ x.interval.exponent := by
  have hpos := significand_pos hx
  have hlow : x.interval.low < x.interval.middle := by
    simp only [interval]
    split <;> omega
  exact mul_lt_mul_of_pos_right (by exact_mod_cast hlow) (by positivity)

theorem middle_lt_upper (x : Double) :
    x.interval.middle * 2 ^ x.interval.exponent < x.interval.upper := by
  have hhigh : x.interval.middle < x.interval.high := by
    simp only [interval]
    omega
  exact mul_lt_mul_of_pos_right (by exact_mod_cast hhigh) (by positivity)

/-- The interval of a smaller float ends before that of a greater one, or where it begins. The
induction is on how far the floats are apart. -/
theorem upper_le_lower (h : x.code < y.code) : x.interval.upper ≤ y.interval.lower := by
  obtain ⟨gap, hgap⟩ : ∃ gap, y.code = x.code + gap + 1 := ⟨y.code - x.code - 1, by omega⟩
  induction gap generalizing y with
  | zero => exact (upper_eq_lower hgap).le
  | succ gap ih =>
    have hfinite := y.finite
    let before : Double := ⟨false, x.code + gap + 1, by omega⟩
    have hzero : before.isZero = false := by simp [before, isZero]
    have hbefore : x.interval.upper ≤ before.interval.lower := ih (by simp only [before]; omega) rfl
    have hnext : before.interval.upper = y.interval.lower := upper_eq_lower hgap
    calc x.interval.upper ≤ before.interval.lower := hbefore
      _ ≤ before.interval.middle * 2 ^ before.interval.exponent := (lower_lt_middle hzero).le
      _ ≤ before.interval.upper := before.middle_lt_upper.le
      _ = y.interval.lower := hnext

/-- No rational rounds to two floats that differ in more than their signs. -/
theorem not_holds_of_lt (h : x.code < y.code) {v : ℚ} (hx : x.interval.Holds v) :
    ¬y.interval.Holds v := by
  intro hy
  have hv : x.interval.upper = v ∧ y.interval.lower = v := by
    have hends := upper_le_lower h
    exact ⟨le_antisymm (hends.trans hy.le.1) hx.le.2,
      le_antisymm hy.le.1 (hx.le.2.trans hends)⟩
  by_cases hnext : y.code = x.code + 1
  · -- The common end belongs to one of the two neighbours only.
    have hclosed := closed_eq_not_closed hnext
    cases hycl : y.interval.closed with
    | false => exact absurd hv.2 (hy.lt hycl).1.ne
    | true =>
      rw [hycl] at hclosed
      exact absurd hv.1 (hx.lt hclosed).2.ne'
  · have hfinite := y.finite
    let between : Double := ⟨false, x.code + 1, by omega⟩
    have hzero : between.isZero = false := by simp [between, isZero]
    have hlow : x.interval.upper = between.interval.lower := upper_eq_lower rfl
    have hhigh : between.interval.upper ≤ y.interval.lower :=
      upper_le_lower (by simp only [between]; omega)
    have hmiddle := lower_lt_middle hzero
    have hmiddle' := between.middle_lt_upper
    linarith

theorem code_eq_of_holds {v : ℚ} (hx : x.interval.Holds v) (hy : y.interval.Holds v) :
    x.code = y.code := by
  rcases Nat.lt_trichotomy x.code y.code with hlt | heq | hgt
  · exact absurd hy (not_holds_of_lt hlt hx)
  · exact heq
  · exact absurd hx (not_holds_of_lt hgt hy)

end Neighbours

section Shortest

variable {x : Double}

/-- The finest grid has the float itself. -/
theorem step_dvd_middle (x : Double) : (scale (min 0 x.exponent) x.interval.exponent).1 ∣
    x.interval.middle * (scale (min 0 x.exponent) x.interval.exponent).2 := by
  simp only [scale, interval, Nat.pow_eq]
  have htop : (min 0 x.exponent).toNat = 0 := by omega
  rw [htop, Nat.pow_zero, Nat.one_mul]
  rcases Int.lt_or_le x.exponent 0 with hneg | hpos
  · obtain ⟨n, hn⟩ : ∃ n : Nat, x.exponent = -n := ⟨(-x.exponent).toNat, by omega⟩
    have hstep : (-(x.exponent - 2)).toNat = 2 + n := by omega
    have hunit : (-min 0 x.exponent).toNat = n := by omega
    have hten : (10 : Nat) ^ n = 2 ^ n * 5 ^ n := by rw [← Nat.mul_pow]
    rw [hstep, hunit, hten, Nat.pow_add]
    exact ⟨x.significand * 5 ^ n * 2 ^ (x.exponent - 2).toNat, by ring⟩
  · have hstep : 2 ^ (-(x.exponent - 2)).toNat ∣ 2 ^ 2 := Nat.pow_dvd_pow 2 (by omega)
    exact (hstep.mul_right _).mul_right _

theorem min_exponent_le_topGrid (x : Double) : min 0 x.exponent ≤ topGrid x := by
  unfold topGrid
  omega

/-- The shortest decimal for a float rounds to the float. -/
theorem holds_shortest (hx : x.isZero = false) (tie : Tie) :
    x.interval.Holds (x.shortest tie).value := by
  have hmiddle : x.interval.Holds (x.interval.middle * 2 ^ x.interval.exponent) :=
    Interval.holds_of_lt (lower_lt_middle hx) x.middle_lt_upper
  have hsteps : topGrid x - (topGrid x - min 0 x.exponent).toNat = min 0 x.exponent := by
    have htop := min_exponent_le_topGrid x
    omega
  refine Interval.holds_coarsest hmiddle tie _ _ ?_
  rw [hsteps]
  exact step_dvd_middle x

theorem shortest_value_pos (hx : x.isZero = false) (tie : Tie) : 0 < (x.shortest tie).value := by
  have hpos := significand_pos hx
  have hlow : 0 < x.interval.low := by
    simp only [interval]
    split <;> omega
  have hlower : 0 < x.interval.lower := mul_pos (by exact_mod_cast hlow) (by positivity)
  exact hlower.trans_le (holds_shortest hx tie).le.1

/-- Floats with the same shortest decimal, or with equal ones, differ in nothing but the sign. -/
theorem code_eq_of_shortest_value_eq {y : Double} (hx : x.isZero = false) (hy : y.isZero = false)
    {tie : Tie} (h : (x.shortest tie).value = (y.shortest tie).value) : x.code = y.code :=
  code_eq_of_holds (holds_shortest hx tie) (h ▸ holds_shortest hy tie)

end Shortest
end RuleTemplate.Double
