import Mathlib.Data.List.Forall2
import RuleTemplate.Matcher
import RuleTemplate.Proofs.Json.Compact
import RuleTemplate.Proofs.Value.Equality

/-!
What criteria see of equal values. A criterion sees a value by its text, and equal values have the
same text, except that the two zeros of floats are equal and the negative one is shown with its
sign. So a criterion can tell equal values apart only if zeros of different sign stand at the same
place in them, where objects show nothing of what is in them. Range matchers cannot even then,
since both zeros are read as the integer zero.
-/
namespace RuleTemplate

namespace Text

theorem signedDigits_append_comma (negative : Bool) (text rest : List Char) :
    signedDigits negative (text ++ ',' :: rest) = signedDigits negative text := by
  have htake : (text ++ ',' :: rest).takeWhile Char.isDigit = text.takeWhile Char.isDigit := by
    induction text with
    | nil => rfl
    | cons c text ih => by_cases hc : c.isDigit = true <;> simp [hc, ih]
  simp only [signedDigits, htake]

/-- An integer at the front of a text ends before a comma. -/
theorem leadingInt_append_comma (text rest : List Char) :
    leadingInt (text ++ ',' :: rest) = leadingInt text := by
  have hblank :
      (text ++ ',' :: rest).dropWhile isBlank = text.dropWhile isBlank ++ ',' :: rest := by
    induction text with
    | nil => rfl
    | cons c text ih => by_cases hc : isBlank c = true <;> simp [hc, ih]
  simp only [leadingInt, hblank]
  rcases text.dropWhile isBlank with _ | ⟨c, others⟩
  · exact signedDigits_append_comma false [] rest
  by_cases hminus : c = '-'
  · subst hminus
    exact signedDigits_append_comma true others rest
  by_cases hplus : c = '+'
  · subst hplus
    exact signedDigits_append_comma false others rest
  have hunsigned (tail : List Char) : cutSign (c :: tail) = (false, c :: tail) := by
    unfold cutSign
    split <;> simp_all
  rw [List.cons_append, hunsigned, hunsigned]
  exact signedDigits_append_comma false (c :: others) rest

end Text

/-- A comparison sign makes a range of a matcher. -/
theorem Matcher.parse_of_sign {text : String}
    (h : ['>', '='] <:+: text.toList ∨ ['<', '='] <:+: text.toList) :
    (∃ bound, parse text = .atLeast bound) ∨ ∃ bound, parse text = .atMost bound := by
  unfold parse
  cases hleast : Text.cutPair '>' '=' text.toList with
  | some parts => exact .inl ⟨_, rfl⟩
  | none =>
    have hsign := h.resolve_left (Text.cutPair_eq_none.mp hleast)
    cases hmost : Text.cutPair '<' '=' text.toList with
    | some parts => exact .inr ⟨_, rfl⟩
    | none => exact absurd hsign (Text.cutPair_eq_none.mp hmost)

namespace Value

/-- Zeros of different sign stand at the same place. They are the two values, or stand in lists
that the values are, at any depth. -/
inductive ZerosDiffer : Value → Value → Prop
  | zeros (sign : Bool) :
      ZerosDiffer (number (.double (.zero sign))) (number (.double (.zero !sign)))
  | items {xs ys : List Value} {i : Nat} {x y : Value} : xs[i]? = some x → ys[i]? = some y →
      ZerosDiffer x y → ZerosDiffer (array xs) (array ys)

theorem zerosDiffer_cons_iff {x y : Value} {xs ys : List Value} :
    ZerosDiffer (array (x :: xs)) (array (y :: ys)) ↔
      ZerosDiffer x y ∨ ZerosDiffer (array xs) (array ys) := by
  constructor
  · intro h
    cases h with
    | @items _ _ i _ _ hx hy hdiffer =>
      cases i with
      | zero =>
        obtain rfl := Option.some.inj hx
        obtain rfl := Option.some.inj hy
        exact .inl hdiffer
      | succ i => exact .inr (.items hx hy hdiffer)
  · rintro (hdiffer | h)
    · exact .items (i := 0) rfl rfl hdiffer
    · cases h with
      | @items _ _ i _ _ hx hy hdiffer => exact .items (i := i + 1) hx hy hdiffer

theorem ZerosDiffer.ne {a b : Value} (h : ZerosDiffer a b) : a ≠ b := by
  induction h with
  | zeros sign => cases sign <;> simp [Double.zero]
  | items hx hy _ ih =>
    intro heq
    obtain rfl := array.inj heq
    exact ih (Option.some.inj (hx.symm.trans hy))

theorem isNull_eq_of_equal {a b : Value} (h : a.equal b = true) : a.isNull = b.isNull := by
  cases equal_iff_sameParts.mp h <;> rfl

/-- The text of a list is that of its first element, with the others after commas. -/
theorem toList_display_array (items : List Value) : (array items).display.toList =
    [','].intercalate (items.map fun item => (displayItem item).toList) := by
  rw [display, displayItems_eq_map, String.toList_intercalate, List.map_map]
  rfl

/-- Texts that begin with those of the two elements tell whether their zeros agree, and if they are
the same, so is what follows. -/
def ShownApart (x y : Value) : Prop :=
  ∀ rest rest', (displayItem x).toList ++ rest = (displayItem y).toList ++ rest' →
    ¬ZerosDiffer x y ∧ rest = rest'

theorem shownApart_further {xs ys : List Value} (hitems : List.Forall₂ ShownApart xs ys)
    {rest rest' : List Char}
    (htext : Json.further (fun item => (displayItem item).toList) xs ++ rest =
      Json.further (fun item => (displayItem item).toList) ys ++ rest') :
    ¬ZerosDiffer (array xs) (array ys) ∧ rest = rest' := by
  induction hitems with
  | nil =>
    refine ⟨fun hdiffer => ?_, htext⟩
    cases hdiffer with
    | items hx => simp at hx
  | cons hfirst _ ih =>
    simp only [Json.further, List.cons_append, List.append_assoc, List.cons.injEq,
      true_and] at htext
    obtain ⟨hagree, hfurther⟩ := hfirst _ _ htext
    obtain ⟨hothers, hrest⟩ := ih hfurther
    exact ⟨fun hdiffer => (zerosDiffer_cons_iff.mp hdiffer).elim hagree hothers, hrest⟩

theorem shownApart_array {xs ys : List Value} (hitems : List.Forall₂ ShownApart xs ys)
    {rest rest' : List Char}
    (htext : (array xs).display.toList ++ rest = (array ys).display.toList ++ rest') :
    ¬ZerosDiffer (array xs) (array ys) ∧ rest = rest' := by
  rw [toList_display_array, toList_display_array] at htext
  cases hitems with
  | nil => exact shownApart_further .nil htext
  | cons hfirst hothers =>
    refine shownApart_further (.cons hfirst hothers) ?_
    rw [Json.intercalate_map_cons, Json.intercalate_map_cons] at htext
    simpa [Json.further] using htext

theorem displayText_zero (sign : Bool) :
    (Double.zero sign).displayText = if sign then "-0" else "0" := by
  cases sign <;> decide +kernel

/-- Texts that begin with those of equal values tell whether the zeros in these agree. -/
theorem not_zerosDiffer_of_append_eq {a b : Value} (h : a.equal b = true)
    {rest rest' : List Char} (htext : a.display.toList ++ rest = b.display.toList ++ rest') :
    ¬ZerosDiffer a b ∧ rest = rest' := by
  induction a using Value.induction generalizing b rest rest' with
  | array xs ih =>
    obtain _ | _ | _ | _ | @⟨_, ys, hitems⟩ := equal_iff_sameParts.mp h
    refine shownApart_array ?_ htext
    refine ((List.forall₂_and_left xs ys).mpr ⟨ih, hitems⟩).imp ?_
    rintro x y ⟨hx, hequal⟩ before after heq
    have hnull := isNull_eq_of_equal hequal
    cases hnone : x.isNull with
    | true =>
      obtain rfl := isNull_iff.mp hnone
      obtain rfl := isNull_iff.mp (hnull.symm.trans hnone)
      exact ⟨fun hdiffer => hdiffer.ne rfl, heq⟩
    | false =>
      rw [displayItem, displayItem, ← hnull, hnone] at heq
      exact hx hequal heq
  | number m =>
    obtain _ | _ | hnumber := equal_iff_sameParts.mp h
    obtain rfl | ⟨sign, rfl, rfl⟩ := Number.eq_or_zeros_of_equal hnumber
    · exact ⟨fun hdiffer => hdiffer.ne rfl, List.append_cancel_left htext⟩
    · rw [display, display, Number.display, Number.display, displayText_zero,
        displayText_zero] at htext
      cases sign <;> simp at htext
  | _ =>
    cases equal_iff_sameParts.mp h
    exact ⟨fun hdiffer => (by cases hdiffer), List.append_cancel_left htext⟩

/-- Where the zeros of equal values agree, so do those of the elements of equal lists. -/
theorem forall₂_not_zerosDiffer {xs ys : List Value}
    (h : List.Forall₂ (fun x y => x.equal y = true) xs ys)
    (hagree : ¬ZerosDiffer (array xs) (array ys)) :
    List.Forall₂ (fun x y => x.equal y = true ∧ ¬ZerosDiffer x y) xs ys := by
  induction h with
  | nil => exact .nil
  | cons hequal _ ih =>
    rw [zerosDiffer_cons_iff, not_or] at hagree
    exact .cons ⟨hequal, hagree.1⟩ (ih hagree.2)

theorem map_eq_of_forall₂ {α β γ : Type} {f : α → γ} {g : β → γ} {xs : List α} {ys : List β}
    (h : List.Forall₂ (fun x y => f x = g y) xs ys) : xs.map f = ys.map g := by
  rw [← List.forall₂_eq_eq_eq, List.forall₂_map_left_iff, List.forall₂_map_right_iff]
  exact h

/-- Equal values with the same zeros have the same text. -/
theorem display_eq_of_not_zerosDiffer {a b : Value} (h : a.equal b = true)
    (hagree : ¬ZerosDiffer a b) : a.display = b.display := by
  induction a using Value.induction generalizing b with
  | array xs ih =>
    obtain _ | _ | _ | _ | @⟨_, ys, hitems⟩ := equal_iff_sameParts.mp h
    have hitem : List.Forall₂ (fun x y => displayItem x = displayItem y) xs ys := by
      refine ((List.forall₂_and_left xs ys).mpr
        ⟨ih, forall₂_not_zerosDiffer hitems hagree⟩).imp ?_
      rintro x y ⟨hx, hequal, hzeros⟩
      rw [displayItem, displayItem, isNull_eq_of_equal hequal, hx hequal hzeros]
    rw [display, display, displayItems_eq_map, displayItems_eq_map, map_eq_of_forall₂ hitem]
  | number m =>
    obtain _ | _ | hnumber := equal_iff_sameParts.mp h
    obtain rfl | ⟨sign, rfl, rfl⟩ := Number.eq_or_zeros_of_equal hnumber
    · rfl
    · exact absurd (.zeros sign) hagree
  | _ =>
    cases equal_iff_sameParts.mp h
    rfl

/-- Equal values have the same text exactly if no zeros in them differ. -/
theorem display_eq_iff {a b : Value} (h : a.equal b = true) :
    a.display = b.display ↔ ¬ZerosDiffer a b := by
  refine ⟨fun htext => ?_, display_eq_of_not_zerosDiffer h⟩
  have happend : a.display.toList ++ [] = b.display.toList ++ [] := by rw [htext]
  exact (not_zerosDiffer_of_append_eq h happend).1

/-- The texts of equal values begin with the same integer, also where zeros in them differ. -/
theorem leadingInt_display_of_equal {a b : Value} (h : a.equal b = true) :
    Text.leadingInt a.display.toList = Text.leadingInt b.display.toList := by
  induction a using Value.induction generalizing b with
  | array xs ih =>
    obtain _ | _ | _ | _ | hitems := equal_iff_sameParts.mp h
    cases hitems with
    | nil => rfl
    | @cons x y xs ys hfirst _ =>
      have hlist (z : Value) (zs : List Value) : Text.leadingInt (array (z :: zs)).display.toList =
          Text.leadingInt (displayItem z).toList := by
        rw [toList_display_array, Json.intercalate_map_cons]
        cases zs with
        | nil => simp [Json.further]
        | cons => exact Text.leadingInt_append_comma _ _
      rw [hlist, hlist, displayItem, displayItem, isNull_eq_of_equal hfirst]
      split
      · rfl
      · exact ih x List.mem_cons_self hfirst
  | number m =>
    obtain _ | _ | hnumber := equal_iff_sameParts.mp h
    obtain rfl | ⟨sign, rfl, rfl⟩ := Number.eq_or_zeros_of_equal hnumber
    · rfl
    · rw [display, display, Number.display, Number.display, displayText_zero, displayText_zero]
      cases sign <;> decide
  | _ =>
    cases equal_iff_sameParts.mp h
    rfl

theorem passes_of_display_eq {a b : Value} (h : a.display = b.display) (text : String) :
    a.passes text = b.passes text := by
  unfold passes Matcher.accepts
  rw [h]

/-- Ranges do not tell equal values apart. -/
theorem passes_range_of_equal {a b : Value} (h : a.equal b = true) {text : String}
    (hsign : ['>', '='] <:+: text.toList ∨ ['<', '='] <:+: text.toList) :
    a.passes text = b.passes text := by
  rcases Matcher.parse_of_sign hsign with ⟨bound, hparse⟩ | ⟨bound, hparse⟩
  all_goals
    rw [passes, passes, hparse, Matcher.accepts, Matcher.accepts, Matcher.compareInts,
      Matcher.compareInts, leadingInt_display_of_equal h]

theorem isOneOf_of_not_zerosDiffer {a b : Value} (h : a.equal b = true)
    (hagree : ¬ZerosDiffer a b) (alternatives : List String) :
    a.isOneOf alternatives = b.isOneOf alternatives := by
  have htext := display_eq_of_not_zerosDiffer h hagree
  cases equal_iff_sameParts.mp h with
  | @array xs ys hitems =>
    have hdisplay : xs.map display = ys.map display :=
      map_eq_of_forall₂ ((forall₂_not_zerosDiffer hitems hagree).imp
        fun x y hxy => display_eq_of_not_zerosDiffer hxy.1 hxy.2)
    have hany (items : List Value) : (array items).isOneOf alternatives =
        (items.map display).any alternatives.contains := by
      rw [List.any_map]
      rfl
    rw [hany, hany, hdisplay]
  | number =>
    show alternatives.contains _ = alternatives.contains _
    rw [htext]
  | _ => rfl

/-- Equal values have the same text exactly if no zeros of different sign stand at the same place
in them, and then no matcher and no list of alternatives tells them apart. A range does not in any
case. -/
theorem criteria_of_equal {a b : Value} (h : a.equal b = true) :
    (a.display = b.display ↔ ¬ZerosDiffer a b) ∧
    (¬ZerosDiffer a b → (∀ text, a.passes text = b.passes text) ∧
      ∀ alternatives, a.isOneOf alternatives = b.isOneOf alternatives) ∧
    ∀ text : String, ['>', '='] <:+: text.toList ∨ ['<', '='] <:+: text.toList →
      a.passes text = b.passes text := by
  refine ⟨display_eq_iff h, fun hagree => ⟨?_, isOneOf_of_not_zerosDiffer h hagree⟩, fun _ =>
    passes_range_of_equal h⟩
  exact passes_of_display_eq (display_eq_of_not_zerosDiffer h hagree)

def shownZero (sign : Bool) : Value :=
  array [number (.double (.zero sign)), object [("n", number (.double (.zero sign))), ("s", null)]]

def hiddenZero : Value :=
  array [number (.double (.zero false)), object [("s", null), ("n", number (.double (.zero true)))]]

theorem criteria_of_equal_hidden :
    (shownZero false).equal hiddenZero = true ∧
    (∀ text, (shownZero false).passes text = hiddenZero.passes text) ∧
    (∀ alternatives, (shownZero false).isOneOf alternatives = hiddenZero.isOneOf alternatives) ∧
    (shownZero false).equal (shownZero true) = true ∧
    (shownZero false).display ≠ (shownZero true).display ∧
    (shownZero false).passes ">=0" = (shownZero true).passes ">=0" := by
  have hhidden : (shownZero false).equal hiddenZero = true := by decide
  have hshown : (shownZero false).equal (shownZero true) = true := by decide
  obtain ⟨htext, hagree, -⟩ := criteria_of_equal hhidden
  obtain ⟨hpasses, honeOf⟩ := hagree (htext.mp (by decide +kernel))
  obtain ⟨htext', -, hranges⟩ := criteria_of_equal hshown
  have hdiffer : ZerosDiffer (shownZero false) (shownZero true) :=
    .items (i := 0) rfl rfl (.zeros false)
  exact ⟨hhidden, hpasses, honeOf, hshown, fun heq => htext'.mp heq hdiffer,
    hranges ">=0" (.inl ⟨[], ['0'], rfl⟩)⟩

/-- The zeros are equal, but their texts are not the same, and a criterion tells them apart. -/
theorem not_same_text_of_zeros :
    (number (.double (.zero false))).equal (number (.double (.zero true))) = true ∧
    (number (.double (.zero false))).display = "0" ∧
    (number (.double (.zero true))).display = "-0" ∧
    (number (.double (.zero false))).passes "0" = true ∧
    (number (.double (.zero true))).passes "0" = false ∧
    (number (.double (.zero false))).isOneOf ["0"] = true ∧
    (number (.double (.zero true))).isOneOf ["0"] = false := by
  decide +kernel

end Value
end RuleTemplate
