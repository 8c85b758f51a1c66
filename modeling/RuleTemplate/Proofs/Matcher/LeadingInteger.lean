import RuleTemplate.Proofs.Matcher.IntegerOrder
import RuleTemplate.Proofs.Text.LeadingBytes

/-!
Range matchers and the integers that texts begin with. A range matcher looks at nothing but the
integer that its bound begins with, so one with a wider bound accepts whatever one with a
narrower bound does.
-/
namespace RuleTemplate

/-- If what is related to one bound is related to another, so is what is compared with it. -/
theorem Matcher.compareInts_mono {related : Int → Int → Bool} {actual b c : List Char} {m n : Int}
    (hb : Text.leadingInt b = some m) (hc : Text.leadingInt c = some n)
    (hrelated : ∀ a, related a m = true → related a n = true)
    (h : compareInts related actual b = true) : compareInts related actual c = true := by
  unfold compareInts at h ⊢
  rw [hb] at h
  rw [hc]
  cases hactual : Text.leadingInt actual with
  | none => simp [hactual] at h
  | some a =>
    rw [hactual] at h
    exact hrelated a h

namespace Value

variable {v : Value} {b c : String} {m n : Int}

theorem passes_atLeast_mono (hb : Text.leadingInt b.toList = some m)
    (hc : Text.leadingInt c.toList = some n) (hle : n ≤ m)
    (h : v.passes (">=" ++ b) = true) : v.passes (">=" ++ c) = true := by
  rw [passes, Matcher.parse_atLeast] at h ⊢
  refine Matcher.compareInts_mono hb hc (fun a ha => ?_) h
  rw [decide_eq_true_iff] at ha ⊢
  exact Int.le_trans hle ha

theorem passes_atMost_mono (hb : Text.leadingInt b.toList = some m)
    (hc : Text.leadingInt c.toList = some n) (hpair : ¬['>', '='] <:+: b.toList)
    (hpair' : ¬['>', '='] <:+: c.toList) (hle : m ≤ n)
    (h : v.passes ("<=" ++ b) = true) : v.passes ("<=" ++ c) = true := by
  rw [passes, Matcher.parse_atMost hpair] at h
  rw [passes, Matcher.parse_atMost hpair']
  refine Matcher.compareInts_mono hb hc (fun a ha => ?_) h
  rw [decide_eq_true_iff] at ha ⊢
  exact Int.le_trans ha hle

end Value

namespace Text

/-- A text is read as the integer `n` if and only if it is blanks, at most one sign, and all the
digits that follow, then anything, where the digits write a magnitude of at most 2^63 - 1 and
`n` is that magnitude on the side of zero that the sign says. Reading the bytes gives the same:
no cut is inside a character, no opposite overflows. So a range matcher accepts what one with
a narrower bound accepts, as long as both bounds begin with integers; of the two comparison signs
only `>=` in a bound of the other one is in the way. -/
theorem leadingInt_exact :
    (∀ (text : List Char) (n : Int), leadingInt text = some n ↔
      ∃ o : Opening, o.chars = text ∧ o.magnitude ≤ 2 ^ 63 - 1 ∧ n = o.integer) ∧
    (∀ text : List Char, ∃ result, readWord text = .ok result ∧
      result.map Int64.toInt = leadingInt text) ∧
    ∀ (v : Value) (b c : String) (m n : Int),
      leadingInt b.toList = some m → leadingInt c.toList = some n →
      (n ≤ m → v.passes (">=" ++ b) = true → v.passes (">=" ++ c) = true) ∧
      (m ≤ n → ¬['>', '='] <:+: b.toList → ¬['>', '='] <:+: c.toList →
        v.passes ("<=" ++ b) = true → v.passes ("<=" ++ c) = true) := by
  refine ⟨fun _ _ => leadingInt_eq_some_iff, readWord_eq_leadingInt,
    fun v b c m n hb hc => ⟨?_, ?_⟩⟩
  · exact fun hle h => Value.passes_atLeast_mono hb hc hle h
  · exact fun hle hpair hpair' h => Value.passes_atMost_mono hb hc hpair hpair' hle h

def loweredOpening : Opening where
  blanks := ['\u2003']
  sign := .minus
  digits := ['0', '0', '7']
  rest := ['é']
  blank := List.forall_mem_singleton.mpr (by decide)
  digits_ne := by simp
  digit := by simp [Char.isDigit]
  maximal := by simp [Char.isDigit]

theorem leadingInt_exact_lowered :
    leadingInt "\u2003-007é".toList = some (-7) ∧
    (∃ w, readWord "\u2003-007é".toList = .ok (some w) ∧ w.toInt = -7) ∧
    (Value.number (.int 17)).passes ">=\u2003-007é" = true := by
  obtain ⟨hread, hbytes, hmono⟩ := leadingInt_exact
  have hlowered : leadingInt "\u2003-007é".toList = some (-7) :=
    (hread _ _).mpr ⟨loweredOpening, by decide, by decide, by decide⟩
  refine ⟨hlowered, ?_, ?_⟩
  · obtain ⟨result, hresult, hvalue⟩ := hbytes "\u2003-007é".toList
    rw [hlowered] at hvalue
    obtain ⟨w, rfl, hw⟩ := Option.map_eq_some_iff.mp hvalue
    exact ⟨w, hresult, hw⟩
  · have hpasses : (Value.number (.int 17)).passes ">=17px" = true := by decide +kernel
    exact (hmono _ "17px" "\u2003-007é" 17 (-7) (by decide) hlowered).1 (by decide) hpasses

end Text
end RuleTemplate
