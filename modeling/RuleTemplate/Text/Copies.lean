/-!
Copies of a text at the front of another.
-/
namespace RuleTemplate.Text

def dropCopies (lead text : List Char) : List Char :=
  if lead ≠ [] ∧ lead.isPrefixOf text then dropCopies lead (text.drop lead.length) else text
termination_by text.length
decreasing_by
  rename_i h
  obtain ⟨hne, hlead⟩ := h
  have hle := (List.isPrefixOf_iff_prefix.mp hlead).length_le
  have hpos := List.length_pos_iff.mpr hne
  rw [List.length_drop]
  omega

theorem dropCopies_append {lead : List Char} (hne : lead ≠ []) (text : List Char) :
    dropCopies lead (lead ++ text) = dropCopies lead text := by
  rw [dropCopies, if_pos ⟨hne, List.isPrefixOf_iff_prefix.mpr (List.prefix_append lead text)⟩,
    List.drop_left]

theorem dropCopies_of_not_isPrefixOf {lead text : List Char}
    (h : lead.isPrefixOf text = false) : dropCopies lead text = text := by
  rw [dropCopies, if_neg (by simp [h])]

theorem not_isPrefixOf_dropCopies {lead : List Char} (hne : lead ≠ []) (text : List Char) :
    lead.isPrefixOf (dropCopies lead text) = false := by
  fun_induction dropCopies lead text with
  | case1 _ _ ih => exact ih
  | case2 _ h => exact Bool.eq_false_iff.mpr fun hlead => h ⟨hne, hlead⟩

end RuleTemplate.Text
