import Mathlib.Data.List.Induction
import Mathlib.Data.List.Nodup
import Mathlib.Data.List.Perm.Subperm
import RuleTemplate.Entries

/-!
Entries from bindings made one after the other: keys stand in the order in which they first come,
each with the value that was bound to it last. Distinct bindings are entries as they stand, and
distinct additions to entries put their new keys at the end. What a key of distinct entries has
does not depend on their order.
-/
namespace RuleTemplate.Entries

variable {α : Type}

theorem insertAll_append_singleton (entries additions : Entries α) (addition : String × α) :
    insertAll entries (additions ++ [addition]) =
      insert addition.1 addition.2 (insertAll entries additions) := by
  simp [insertAll]

theorem ofList_append_singleton (bindings : List (String × α)) (binding : String × α) :
    ofList (bindings ++ [binding]) = insert binding.1 binding.2 (ofList bindings) :=
  insertAll_append_singleton [] bindings binding

/-- Names stand in the order in which they first come. -/
theorem keys_ofList (bindings : List (String × α)) :
    (ofList bindings).keys = (keys bindings).eraseDups := by
  induction bindings using List.reverseRecOn with
  | nil => rfl
  | append_singleton rest binding ih =>
    have hkeys : keys (rest ++ [binding]) = keys rest ++ [binding.1] := by simp [keys]
    rw [ofList_append_singleton, keys_insert, ih, hkeys, List.eraseDups_append]
    by_cases hmem : binding.1 ∈ keys rest
    · simp [hmem, List.removeAll]
    · simp [hmem, List.removeAll, List.eraseDups_cons]

/-- A key has the value that was added for it last, or else the one that it had. -/
theorem get?_insertAll (entries additions : Entries α) (key : String) :
    (insertAll entries additions).get? key =
      (get? additions.reverse key).or (entries.get? key) := by
  induction additions using List.reverseRecOn with
  | nil => rfl
  | append_singleton rest addition ih =>
    obtain ⟨k, v⟩ := addition
    rw [insertAll_append_singleton, get?_insert, List.reverse_append, ih]
    by_cases hkey : key = k
    · simp [get?_cons, hkey]
    · simp [get?_cons, hkey]

/-- A name has the value that was bound to it last. -/
theorem get?_ofList (bindings : List (String × α)) (key : String) :
    (ofList bindings).get? key = get? bindings.reverse key := by
  rw [ofList, get?_insertAll, get?_nil, Option.or_none]

theorem distinct_append_singleton {entries : Entries α} {entry : String × α} :
    Distinct (entries ++ [entry]) ↔ Distinct entries ∧ entry.1 ∉ keys entries := by
  have hkeys : keys (entries ++ [entry]) = keys entries ++ [entry.1] := by simp [keys]
  rw [Distinct, hkeys]
  constructor
  · intro h
    obtain ⟨hentries, -, hnew⟩ := List.nodup_append.mp h
    exact ⟨hentries, fun hmem => hnew _ hmem _ (by simp) rfl⟩
  · rintro ⟨hentries, hnew⟩
    refine List.nodup_append.mpr ⟨hentries, by simp, fun a ha b hb => ?_⟩
    rw [List.mem_singleton] at hb
    exact fun heq => hnew (hb ▸ heq ▸ ha)

theorem insert_of_notMem {entries : Entries α} {key : String} (h : key ∉ entries.keys)
    (value : α) : insert key value entries = entries ++ [(key, value)] := by
  induction entries with
  | nil => rfl
  | cons entry rest ih =>
    obtain ⟨k, v⟩ := entry
    simp only [keys, List.map_cons, List.mem_cons, not_or] at h
    rw [insert, if_neg fun hk => h.1 hk.symm, ih h.2, List.cons_append]

theorem ofList_of_distinct {entries : Entries α} (h : entries.Distinct) :
    ofList entries = entries := by
  induction entries using List.reverseRecOn with
  | nil => rfl
  | append_singleton rest entry ih =>
    obtain ⟨hrest, hnotMem⟩ := distinct_append_singleton.mp h
    rw [ofList_append_singleton, ih hrest, insert_of_notMem hnotMem]

/-- New keys come after the old ones, in the order in which they are added. -/
theorem keys_insertAll (entries : Entries α) {additions : Entries α} (h : additions.Distinct) :
    (insertAll entries additions).keys =
      entries.keys ++ additions.keys.filter (· ∉ entries.keys) := by
  induction additions using List.reverseRecOn with
  | nil => simp [insertAll, keys]
  | append_singleton rest addition ih =>
    obtain ⟨hrest, hnotMem⟩ := distinct_append_singleton.mp h
    have hkeys : keys (rest ++ [addition]) = keys rest ++ [addition.1] := by simp [keys]
    rw [insertAll_append_singleton, keys_insert, ih hrest, hkeys, List.filter_append]
    by_cases hold : addition.1 ∈ entries.keys <;> simp [hold, hnotMem]

/-- A key of distinct entries has the value that stands with it. -/
theorem get?_of_mem {entries : Entries α} (h : entries.Distinct) {key : String} {value : α}
    (hmem : (key, value) ∈ entries) : entries.get? key = some value := by
  induction entries with
  | nil => simp at hmem
  | cons entry rest ih =>
    obtain ⟨k, v⟩ := entry
    obtain ⟨hnew, hrest⟩ := List.nodup_cons.mp h
    rcases List.mem_cons.mp hmem with heq | hlater
    · rw [Prod.mk.injEq] at heq
      rw [get?_cons, if_pos heq.1, heq.2]
    · have hne : key ≠ k := by
        rintro rfl
        exact hnew (List.mem_map.mpr ⟨_, hlater, rfl⟩)
      rw [get?_cons, if_neg hne, ih hrest hlater]

theorem get?_eq_some_iff {entries : Entries α} (h : entries.Distinct) {key : String} {value : α} :
    entries.get? key = some value ↔ (key, value) ∈ entries :=
  ⟨mem_of_get?, get?_of_mem h⟩

/-- What a key of distinct entries has for a value does not depend on their order. -/
theorem get?_of_perm {entries others : Entries α} (h : entries.Distinct)
    (hperm : List.Perm entries others) (key : String) : others.get? key = entries.get? key := by
  have hothers : others.Distinct := (hperm.map Prod.fst).nodup_iff.mp h
  refine Option.ext fun value => ?_
  rw [get?_eq_some_iff hothers, get?_eq_some_iff h, hperm.mem_iff]

/-- Distinct keys that all stand among as many keys are the same keys. -/
theorem keys_perm_of_subset {β : Type} {entries : Entries α} {others : Entries β}
    (h : entries.Distinct) (hlength : entries.length = others.length)
    (hkeys : entries.keys ⊆ others.keys) : List.Perm entries.keys others.keys := by
  have hle : others.keys.length ≤ entries.keys.length := by simp [keys, hlength]
  exact (h.subperm hkeys).perm_of_length_le hle

/-- Distinct additions replace what their keys had before. -/
theorem get?_insertAll_of_distinct (entries : Entries α) {additions : Entries α}
    (h : additions.Distinct) (key : String) :
    (insertAll entries additions).get? key = (additions.get? key).or (entries.get? key) := by
  rw [get?_insertAll, get?_of_perm h (List.reverse_perm additions).symm]

end RuleTemplate.Entries
