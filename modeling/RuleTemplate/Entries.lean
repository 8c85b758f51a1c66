/-!
Entries: a finite map from texts to values that remembers the order in which its keys
first came. An entry with a new key is added at the end.
-/
namespace RuleTemplate

abbrev Entries (α : Type) := List (String × α)

namespace Entries

variable {α β : Type}

def keys (entries : Entries α) : List String := List.map Prod.fst entries

def get? : Entries α → String → Option α
  | [], _ => none
  | (k, v) :: rest, key => if key = k then some v else get? rest key

/-- Sets the value of a key: in its place, or at the end if it is new. -/
def insert (key : String) (value : α) : Entries α → Entries α
  | [] => [(key, value)]
  | (k, v) :: rest =>
    if k = key then (key, value) :: rest else (k, v) :: insert key value rest

def insertAll (entries additions : Entries α) : Entries α :=
  additions.foldl (fun result entry => insert entry.1 entry.2 result) entries

/-- Entries from a list of bindings: a repeated key keeps its first place and its last
value. -/
def ofList (bindings : List (String × α)) : Entries α := insertAll [] bindings

def Distinct (entries : Entries α) : Prop := entries.keys.Nodup

theorem get?_nil (key : String) : get? ([] : Entries α) key = none := rfl

theorem get?_cons (k : String) (v : α) (rest : Entries α) (key : String) :
    get? ((k, v) :: rest) key = if key = k then some v else get? rest key := rfl

theorem get?_eq_none {entries : Entries α} {key : String} :
    entries.get? key = none ↔ key ∉ entries.keys := by
  induction entries with
  | nil => simp [get?, keys]
  | cons entry rest ih =>
    obtain ⟨k, v⟩ := entry
    by_cases h : key = k
    · simp [get?_cons, keys, h]
    · simpa [get?_cons, keys, h] using ih

theorem mem_of_get? {entries : Entries α} {key : String} {value : α}
    (h : entries.get? key = some value) : (key, value) ∈ entries := by
  induction entries with
  | nil => simp [get?] at h
  | cons entry rest ih =>
    obtain ⟨k, v⟩ := entry
    by_cases hk : key = k
    · simp only [get?_cons, hk, ite_true, Option.some.injEq] at h
      simp [hk, h]
    · simp only [get?_cons, hk, ite_false] at h
      exact List.mem_cons_of_mem _ (ih h)

theorem get?_insert (entries : Entries α) (key other : String) (value : α) :
    (insert key value entries).get? other =
      if other = key then some value else entries.get? other := by
  induction entries with
  | nil => simp [insert, get?_cons, get?_nil]
  | cons entry rest ih =>
    obtain ⟨k, v⟩ := entry
    by_cases hk : k = key
    · by_cases ho : other = key <;> simp [insert, hk, get?_cons, ho]
    · by_cases ho : other = k
      · have hne : other ≠ key := fun h => hk (ho ▸ h)
        simp [insert, hk, get?_cons, ho]
      · simp [insert, hk, get?_cons, ho, ih]

theorem eq_or_mem_of_mem_insert {entries : Entries α} {key : String} {value : α}
    {entry : String × α} (h : entry ∈ insert key value entries) :
    entry = (key, value) ∨ entry ∈ entries := by
  induction entries with
  | nil => exact Or.inl (List.mem_singleton.mp h)
  | cons first rest ih =>
    obtain ⟨k, v⟩ := first
    by_cases hk : k = key
    · simp only [insert, hk, ite_true, List.mem_cons] at h
      exact h.imp_right (List.mem_cons_of_mem _)
    · simp only [insert, hk, ite_false, List.mem_cons] at h
      rcases h with rfl | hrest
      · exact Or.inr List.mem_cons_self
      · exact (ih hrest).imp_right (List.mem_cons_of_mem _)

theorem keys_insert (entries : Entries α) (key : String) (value : α) :
    (insert key value entries).keys =
      if key ∈ entries.keys then entries.keys else entries.keys ++ [key] := by
  induction entries with
  | nil => simp [insert, keys]
  | cons entry rest ih =>
    obtain ⟨k, v⟩ := entry
    by_cases hk : k = key
    · simp [insert, hk, keys]
    · have hne : key ≠ k := fun h => hk h.symm
      simp only [insert, hk, ite_false]
      simp only [keys, List.map_cons, List.mem_cons, hne, false_or] at ih ⊢
      rw [ih]
      split
      · next hmem => simp [hmem]
      · next hmem => simp [hmem]

theorem distinct_insert {entries : Entries α} (h : entries.Distinct) (key : String)
    (value : α) : (insert key value entries).Distinct := by
  unfold Distinct
  rw [keys_insert]
  split
  · exact h
  · next hkey =>
    refine List.nodup_append.mpr ⟨h, by simp, ?_⟩
    intro a ha b hb
    rw [List.mem_singleton] at hb
    exact fun heq => hkey (hb ▸ heq ▸ ha)

end Entries
end RuleTemplate
