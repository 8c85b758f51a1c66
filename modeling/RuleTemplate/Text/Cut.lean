/-!
Cutting a text at separators: one character, or two in a row. The first occurrence
counts, and a piece between separators may be empty.
-/
namespace RuleTemplate.Text

def cut (sep : Char) : List Char → Option (List Char × List Char)
  | [] => none
  | c :: rest =>
    if c = sep then some ([], rest)
    else (cut sep rest).map fun (before, after) => (c :: before, after)

def cutPair (a b : Char) : List Char → Option (List Char × List Char)
  | [] => none
  | [_] => none
  | c :: d :: rest =>
    if c = a ∧ d = b then some ([], rest)
    else (cutPair a b (d :: rest)).map fun (before, after) => (c :: before, after)

/-- The pieces between the occurrences of `a` followed by `b`, read from the left. -/
def splitPair (a b : Char) : List Char → List (List Char)
  | [] => [[]]
  | [c] => [[c]]
  | c :: d :: rest =>
    if c = a ∧ d = b then [] :: splitPair a b rest
    else (splitPair a b (d :: rest)).modifyHead (c :: ·)

theorem cut_eq_none {sep : Char} {text : List Char} : cut sep text = none ↔ sep ∉ text := by
  induction text with
  | nil => simp [cut]
  | cons c rest ih =>
    by_cases hc : c = sep
    · simp [cut, hc]
    · have hne : sep ≠ c := fun h => hc h.symm
      simp [cut, hc, hne, ih]

theorem cut_eq_some {sep : Char} {text before after : List Char} :
    cut sep text = some (before, after) ↔
      text = before ++ sep :: after ∧ sep ∉ before := by
  induction text generalizing before with
  | nil => simp [cut]
  | cons c rest ih =>
    by_cases hc : c = sep
    · subst hc
      simp only [cut, ite_true, Option.some.injEq, Prod.mk.injEq]
      constructor
      · rintro ⟨rfl, rfl⟩
        simp
      · rintro ⟨htext, hbefore⟩
        cases before with
        | nil => simpa using htext
        | cons x xs =>
          simp only [List.cons_append, List.cons.injEq] at htext
          exact absurd (by simp [htext.1]) hbefore
    · have hne : sep ≠ c := fun h => hc h.symm
      simp only [cut, hc, ite_false, Option.map_eq_some_iff, Prod.exists, Prod.mk.injEq]
      constructor
      · rintro ⟨front, back, hcut, rfl, rfl⟩
        obtain ⟨rfl, hfront⟩ := ih.mp hcut
        simp [hne, hfront]
      · rintro ⟨htext, hbefore⟩
        cases before with
        | nil =>
          simp only [List.nil_append, List.cons.injEq] at htext
          exact absurd htext.1 hc
        | cons x xs =>
          simp only [List.cons_append, List.cons.injEq] at htext
          obtain ⟨rfl, rfl⟩ := htext
          simp only [List.mem_cons, not_or] at hbefore
          exact ⟨xs, after, ih.mpr ⟨rfl, hbefore.2⟩, rfl, rfl⟩

theorem eq_append_of_cutPair {a b : Char} {text before after : List Char}
    (h : cutPair a b text = some (before, after)) : text = before ++ a :: b :: after := by
  fun_induction cutPair a b text generalizing before with
  | case1 => simp at h
  | case2 => simp at h
  | case3 c d rest hsep =>
    obtain ⟨rfl, rfl⟩ := hsep
    simp only [Option.some.injEq, Prod.mk.injEq] at h
    simp [← h.1, ← h.2]
  | case4 c d rest hsep ih =>
    simp only [Option.map_eq_some_iff, Prod.exists, Prod.mk.injEq] at h
    obtain ⟨front, back, hcut, rfl, rfl⟩ := h
    simp [ih hcut]

theorem cutPair_eq_none {a b : Char} {text : List Char} :
    cutPair a b text = none ↔ ¬[a, b] <:+: text := by
  fun_induction cutPair a b text with
  | case1 => simp
  | case2 c =>
    refine iff_of_true rfl fun h => ?_
    simpa using h.length_le
  | case3 c d rest hsep =>
    obtain ⟨rfl, rfl⟩ := hsep
    exact iff_of_false (by simp) fun hnone => hnone ⟨[], rest, rfl⟩
  | case4 c d rest hsep ih =>
    have hcons : [a, b] <:+: c :: d :: rest ↔ _ := List.infix_cons_iff
    rw [Option.map_eq_none_iff, ih, hcons, not_or]
    refine ⟨fun h => ⟨fun hlead => hsep ?_, h⟩, fun h => h.2⟩
    simp only [List.cons_prefix_cons, List.nil_prefix, and_true] at hlead
    exact ⟨hlead.1.symm, hlead.2.symm⟩

/-- What holds no `a` has no part in a pair that begins with it. -/
theorem pair_infix_append_iff {a b : Char} {before after : List Char} (h : a ∉ before) :
    [a, b] <:+: before ++ after ↔ [a, b] <:+: after := by
  induction before with
  | nil => rfl
  | cons c front ih =>
    rw [List.mem_cons, not_or] at h
    have hlead : ¬[a, b] <+: c :: (front ++ after) := by
      rw [List.cons_prefix_cons]
      exact fun hlead => h.1 hlead.1
    rw [List.cons_append, List.infix_cons_iff, or_iff_right hlead, ih h.2]

/-- If no pair begins in `before`, the cut is after it. -/
theorem cutPair_append {a b : Char} {before : List Char} (h : ¬[a, b] <:+: before ++ [a])
    (after : List Char) : cutPair a b (before ++ a :: b :: after) = some (before, after) := by
  induction before with
  | nil => simp [cutPair]
  | cons c front ih =>
    rw [List.cons_append, List.infix_cons_iff, not_or] at h
    obtain ⟨d, rest, hnext⟩ : ∃ d rest, front ++ a :: b :: after = d :: rest := by
      cases front <;> simp
    have hne : ¬(c = a ∧ d = b) := by
      rintro ⟨rfl, rfl⟩
      have hfront : c :: (front ++ [c]) <+: c :: d :: rest := ⟨d :: after, by simp [← hnext]⟩
      have hpair : [c, d] <+: c :: d :: rest := by simp
      exact h.1 (List.prefix_of_prefix_length_le hpair hfront (by simp))
    rw [List.cons_append, hnext, cutPair, if_neg hne, ← hnext, ih h.2]
    rfl

/-- A cut at a pair is one at its first occurrence: none begins before it. -/
theorem cutPair_eq_some {a b : Char} {text before after : List Char} :
    cutPair a b text = some (before, after) ↔
      text = before ++ a :: b :: after ∧ ¬[a, b] <:+: before ++ [a] := by
  refine ⟨fun h => ⟨eq_append_of_cutPair h, ?_⟩, fun ⟨htext, hfirst⟩ => ?_⟩
  · fun_induction cutPair a b text generalizing before with
    | case1 => simp at h
    | case2 => simp at h
    | case3 c d rest hsep =>
      simp only [Option.some.injEq, Prod.mk.injEq] at h
      rw [← h.1]
      intro hpair
      simpa using hpair.length_le
    | case4 c d rest hsep ih =>
      simp only [Option.map_eq_some_iff, Prod.exists, Prod.mk.injEq] at h
      obtain ⟨front, back, hcut, rfl, rfl⟩ := h
      rw [List.cons_append, List.infix_cons_iff, not_or]
      refine ⟨fun hlead => hsep ?_, ih hcut⟩
      have hfront : c :: (front ++ [a]) <+: c :: d :: rest :=
        ⟨b :: back, by simp [eq_append_of_cutPair hcut]⟩
      have hpair := hlead.trans hfront
      simp only [List.cons_prefix_cons, List.nil_prefix, and_true] at hpair
      exact ⟨hpair.1.symm, hpair.2.symm⟩
  · rw [htext]
    exact cutPair_append hfirst after

/-- A piece of a split is made of characters of the text that are no separators. -/
theorem of_mem_splitOnP {p : Char → Bool} {text piece : List Char}
    (h : piece ∈ text.splitOnP p) : ∀ c ∈ piece, c ∈ text ∧ p c = false := by
  induction text generalizing piece with
  | nil =>
    rw [List.splitOnP_nil, List.mem_singleton] at h
    simp [h]
  | cons first rest ih =>
    intro c hc
    rw [List.splitOnP_cons_eq_if_modifyHead] at h
    split at h
    · rcases List.mem_cons.mp h with rfl | hrest
      · simp at hc
      · exact (ih hrest c hc).imp_left (List.mem_cons_of_mem _)
    · next hfirst =>
      obtain ⟨head, tail, hsplit⟩ := List.exists_cons_of_ne_nil (List.splitOnP_ne_nil p rest)
      rw [hsplit, List.modifyHead_cons] at h
      have hsub : ∀ other ∈ head :: tail, ∀ d ∈ other, d ∈ first :: rest ∧ p d = false :=
        fun other hother d hd => (ih (hsplit ▸ hother) d hd).imp_left (List.mem_cons_of_mem _)
      rcases List.mem_cons.mp h with rfl | htail
      · rcases List.mem_cons.mp hc with rfl | hhead
        · exact ⟨List.mem_cons_self, Bool.eq_false_iff.mpr hfirst⟩
        · exact hsub head List.mem_cons_self c hhead
      · exact hsub piece (List.mem_cons_of_mem _ htail) c hc

theorem of_mem_splitOn {sep : Char} {text piece : List Char} (h : piece ∈ text.splitOn sep) :
    sep ∉ piece ∧ ∀ c ∈ piece, c ∈ text := by
  rw [List.splitOn_eq_splitOnP] at h
  refine ⟨fun hsep => ?_, fun c hc => (of_mem_splitOnP h c hc).1⟩
  simpa using (of_mem_splitOnP h sep hsep).2

theorem of_mem_intercalate {sep : List Char} {pieces : List (List Char)} {c : Char}
    (h : c ∈ sep.intercalate pieces) : c ∈ sep ∨ ∃ piece ∈ pieces, c ∈ piece := by
  induction pieces with
  | nil => simp at h
  | cons first rest ih =>
    cases rest with
    | nil =>
      rw [List.intercalate_singleton] at h
      exact Or.inr ⟨first, List.mem_cons_self, h⟩
    | cons next others =>
      rw [List.intercalate_cons_cons, List.append_assoc, List.mem_append, List.mem_append] at h
      rcases h with hfirst | hsep | hrest
      · exact Or.inr ⟨first, List.mem_cons_self, hfirst⟩
      · exact Or.inl hsep
      · refine (ih hrest).imp_right ?_
        rintro ⟨piece, hpiece, hc⟩
        exact ⟨piece, List.mem_cons_of_mem _ hpiece, hc⟩

/-- What stands between the separators up to a place within a piece is there as well if nothing
comes after that place. -/
theorem exists_intercalate_append (sep : List Char) (before : List (List Char))
    (front back : List Char) (after : List (List Char)) : ∃ rest,
    sep.intercalate (before ++ (front ++ back) :: after) =
      sep.intercalate (before ++ [front]) ++ (back ++ rest) := by
  induction before with
  | nil =>
    by_cases hafter : after = []
    · exact ⟨[], by simp [hafter]⟩
    · refine ⟨sep ++ sep.intercalate after, ?_⟩
      rw [List.nil_append, List.intercalate_cons_of_ne_nil hafter]
      simp
  | cons piece others ih =>
    obtain ⟨rest, hrest⟩ := ih
    refine ⟨rest, ?_⟩
    rw [List.cons_append, List.intercalate_cons_of_ne_nil (by simp), hrest, List.cons_append,
      List.intercalate_cons_of_ne_nil (by simp)]
    simp only [List.append_assoc]

theorem splitPair_ne_nil (a b : Char) (text : List Char) : splitPair a b text ≠ [] := by
  fun_induction splitPair a b text with
  | case1 => simp
  | case2 => simp
  | case3 => simp
  | case4 c d rest hsep ih => simpa [List.modifyHead_eq_nil_iff] using ih

theorem splitPair_eq_singleton {a b : Char} {text : List Char} (h : ¬[a, b] <:+: text) :
    splitPair a b text = [text] := by
  fun_induction splitPair a b text with
  | case1 => rfl
  | case2 => rfl
  | case3 c d rest hsep =>
    obtain ⟨rfl, rfl⟩ := hsep
    exact absurd ⟨[], rest, rfl⟩ h
  | case4 c d rest hsep ih =>
    rw [List.infix_cons_iff, not_or] at h
    rw [ih h.2]
    rfl

/-- The first piece ends at the first pair if no `a` stands in it. -/
theorem splitPair_append {a b : Char} {piece : List Char} (h : a ∉ piece) (rest : List Char) :
    splitPair a b (piece ++ a :: b :: rest) = piece :: splitPair a b rest := by
  induction piece with
  | nil => simp [splitPair]
  | cons c front ih =>
    rw [List.mem_cons, not_or] at h
    obtain ⟨d, others, hnext⟩ : ∃ d others, front ++ a :: b :: rest = d :: others := by
      cases front <;> simp
    have hne : ¬(c = a ∧ d = b) := fun hpair => h.1 hpair.1.symm
    rw [List.cons_append, hnext, splitPair, if_neg hne, ← hnext, ih h.2]
    rfl

/-- Pieces in which no `a` stands are found again between the pairs that join them. -/
theorem splitPair_intercalate {a b : Char} {pieces : List (List Char)} (hne : pieces ≠ [])
    (h : ∀ piece ∈ pieces, a ∉ piece) : splitPair a b ([a, b].intercalate pieces) = pieces := by
  induction pieces with
  | nil => exact absurd rfl hne
  | cons piece rest ih =>
    obtain ⟨hpiece, hrest⟩ := List.forall_mem_cons.mp h
    by_cases hlast : rest = []
    · have hpair : ¬[a, b] <:+: piece := fun hpair => hpiece (hpair.subset List.mem_cons_self)
      rw [hlast, List.intercalate_singleton, splitPair_eq_singleton hpair]
    · rw [List.intercalate_cons_of_ne_nil hlast, List.append_assoc, List.cons_append,
        List.cons_append, List.nil_append, splitPair_append hpiece, ih hlast hrest]

theorem intercalate_splitPair (a b : Char) (text : List Char) :
    [a, b].intercalate (splitPair a b text) = text := by
  fun_induction splitPair a b text with
  | case1 => rfl
  | case2 => rfl
  | case3 c d rest hsep ih =>
    obtain ⟨rfl, rfl⟩ := hsep
    obtain ⟨piece, pieces, hsplit⟩ := List.exists_cons_of_ne_nil (splitPair_ne_nil c d rest)
    rw [hsplit] at ih ⊢
    simpa [List.intercalate, List.intersperse] using ih
  | case4 c d rest hsep ih =>
    obtain ⟨piece, pieces, hsplit⟩ := List.exists_cons_of_ne_nil (splitPair_ne_nil a b (d :: rest))
    rw [hsplit] at ih ⊢
    cases pieces with
    | nil => simpa [List.intercalate, List.intersperse] using ih
    | cons next others => simpa [List.intercalate, List.intersperse] using ih

end RuleTemplate.Text
