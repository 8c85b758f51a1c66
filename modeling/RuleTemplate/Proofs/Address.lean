import RuleTemplate.Address

/-!
Spellings of a path. A bracket that is not closed is a character like any other, so where nothing
is closed before a segment, the segment may stand in brackets instead of after a dot.
-/
namespace RuleTemplate.Address

/-- Characters other than brackets stay as they are. -/
theorem dotted_append {segment : List Char} (h : ∀ c ∈ segment, isBracket c = false)
    (inside : Bool) (rest : List Char) :
    dotted inside (segment ++ rest) = segment ++ dotted inside rest := by
  induction segment with
  | nil => rfl
  | cons c others ih =>
    have hc := h c List.mem_cons_self
    simp only [isBracket, Bool.or_eq_false_iff, beq_eq_false_iff_ne] at hc
    rw [List.cons_append, dotted, if_neg hc.1, if_neg hc.2,
      ih fun d hd => h d (List.mem_cons_of_mem _ hd), List.cons_append]

theorem closesNext_append {lead rest : List Char} (hlead : ']' ∉ lead)
    (hrest : closesNext rest = false) : closesNext (lead ++ rest) = false := by
  induction lead with
  | nil => exact hrest
  | cons c others ih =>
    rw [List.mem_cons, not_or] at hlead
    have hothers := ih hlead.2
    by_cases hopen : c = '['
    · simp [closesNext, hopen, isBracket]
    · have hbracket : isBracket c = false := by simp [isBracket, hopen, Ne.symm hlead.1]
      rw [closesNext, List.cons_append, List.find?_cons, hbracket]
      exact hothers

/-- Nothing is closed in the text or right after it, so it stays as it is. -/
theorem dotted_append_of_notMem {lead rest : List Char} (hlead : ']' ∉ lead)
    (hrest : closesNext rest = false) :
    dotted false (lead ++ rest) = lead ++ dotted false rest := by
  induction lead with
  | nil => rfl
  | cons c others ih =>
    rw [List.mem_cons, not_or] at hlead
    have hothers := ih hlead.2
    have hcloses : closesNext (others ++ rest) = false := closesNext_append hlead.2 hrest
    by_cases hopen : c = '['
    · rw [List.cons_append, dotted, if_pos hopen, hcloses, hothers]
      rfl
    · rw [List.cons_append, dotted, if_neg hopen, if_neg (Ne.symm hlead.1), hothers]
      rfl

theorem closesNext_segment {segment : List Char} (h : ∀ c ∈ segment, isBracket c = false)
    (rest : List Char) : closesNext (segment ++ ']' :: rest) = true := by
  induction segment with
  | nil => rfl
  | cons c others ih =>
    have hc := h c List.mem_cons_self
    rw [closesNext, List.cons_append, List.find?_cons, hc]
    exact ih fun d hd => h d (List.mem_cons_of_mem _ hd)

/-- A segment of an address that is not its first one. -/
structure Respelling where
  lead : List Char
  segment : List Char
  trail : List Char
  sigil : lead.head? = some sigil
  bracket_notMem_segment : ∀ c ∈ segment, isBracket c = false

namespace Respelling

def withDot (r : Respelling) : String := String.ofList (r.lead ++ '.' :: (r.segment ++ r.trail))

def withBrackets (r : Respelling) : String :=
  String.ofList (r.lead ++ '[' :: (r.segment ++ ']' :: r.trail))

def beforeClosing (r : Respelling) : String := String.ofList (r.lead ++ '[' :: r.segment)

variable (r : Respelling)

theorem hasSigil_of_lead {rest : List Char} : hasSigil (String.ofList (r.lead ++ rest)) = true := by
  simp [hasSigil, r.sigil]

theorem hasSigil_withDot : hasSigil r.withDot = true := r.hasSigil_of_lead

theorem hasSigil_withBrackets : hasSigil r.withBrackets = true := r.hasSigil_of_lead

variable {r}

/-- The two spellings are the same path. -/
theorem segments_withBrackets (h : ']' ∉ r.withDot.toList) :
    segments r.withBrackets = segments r.withDot := by
  have hdot : ']' ∉ r.lead ++ '.' :: (r.segment ++ r.trail) := by simpa [withDot] using h
  have hlead : ']' ∉ r.lead := fun hmem => hdot (List.mem_append_left _ hmem)
  have htrail : ']' ∉ r.trail := fun hmem => hdot (by simp [hmem])
  have hopen {text : List Char} (htext : ']' ∉ text) : dotted false text = text := by
    have hnil : closesNext [] = false := rfl
    simpa [dotted] using dotted_append_of_notMem htext hnil
  have hdotted : dotted false (r.lead ++ '[' :: (r.segment ++ ']' :: r.trail)) =
      dotted false (r.lead ++ '.' :: (r.segment ++ r.trail)) := by
    calc dotted false (r.lead ++ '[' :: (r.segment ++ ']' :: r.trail))
        = r.lead ++ dotted false ('[' :: (r.segment ++ ']' :: r.trail)) :=
          dotted_append_of_notMem hlead rfl
      _ = r.lead ++ '.' :: dotted true (r.segment ++ ']' :: r.trail) := by
          rw [dotted, if_pos rfl, closesNext_segment r.bracket_notMem_segment, if_pos rfl]
      _ = r.lead ++ '.' :: (r.segment ++ dotted false r.trail) := by
          rw [dotted_append r.bracket_notMem_segment]
          rfl
      _ = dotted false (r.lead ++ '.' :: (r.segment ++ r.trail)) := by
          rw [hopen htrail, hopen hdot]
  simp only [segments, withDot, withBrackets, String.toList_ofList, hdotted]

end Respelling
end RuleTemplate.Address
