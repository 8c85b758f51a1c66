import RuleTemplate.Address
import RuleTemplate.Proofs.Entries
import RuleTemplate.Store

/-!
A store is what the operations that built it say. Namespaces are set under names with or without
the sigil, alone or many at once; a name is one namespace in both spellings. The store has them
in the order in which they were first set, each with what it was set to last, and addresses lead
into nothing else.
-/
namespace RuleTemplate.Store

inductive Operation
  /-- A namespace is set, and what it held before is asked for. -/
  | exchange (name : String) (value : Value)
  | insert (name : String) (value : Value)
  | ofRecord (namespaces : Record)
  | ofObject (members : List (String × Json))

namespace Operation

def apply : Operation → Store → Store
  | exchange name value, store => (store.exchange name value).2
  | insert name value, store => store.insert name value
  | ofRecord namespaces, _ => Store.ofRecord namespaces
  | ofObject members, store => ((Store.ofJson (.object members)).toOption).getD store

/-- What has been set since a store was last made, after the step. -/
def extend : Operation → Record → Record
  | exchange name value, bindings | insert name value, bindings => bindings ++ [(name, value)]
  | ofRecord namespaces, _ => namespaces
  | ofObject members, _ => Value.membersOfJson members

end Operation

def build (operations : List Operation) : Store :=
  operations.foldl (fun store operation => operation.apply store) empty

def bindings (operations : List Operation) : Record :=
  operations.foldl (fun bindings operation => operation.extend bindings) []

def named (binding : String × Value) : String × Value := (nameOf binding.1, binding.2)

theorem ext_namespaces {a b : Store} (h : a.namespaces = b.namespaces) : a = b := by
  cases a
  cases b
  simpa using h

theorem nameOf_of_hasSigil {name : String} (h : hasSigil name = true) : nameOf name = name :=
  if_pos h

def Holds (store : Store) (bindings : Record) : Prop :=
  store.namespaces = Entries.ofList (bindings.map named)

theorem Holds.insert {store : Store} {bindings : Record} (h : store.Holds bindings)
    (name : String) (value : Value) :
    (store.insert name value).Holds (bindings ++ [(name, value)]) := by
  rw [Holds, List.map_append, List.map_singleton, Entries.ofList_append_singleton, ← h]
  rfl

theorem holds_foldl_insert {store : Store} {bindings : Record} (h : store.Holds bindings)
    (additions : Record) :
    (additions.foldl (fun store entry => store.insert entry.1 entry.2) store).Holds
      (bindings ++ additions) := by
  induction additions generalizing store bindings with
  | nil => simpa using h
  | cons entry rest ih =>
    have hrest := ih (h.insert entry.1 entry.2)
    rwa [List.append_assoc, List.singleton_append] at hrest

theorem holds_ofRecord (namespaces : Record) : (ofRecord namespaces).Holds namespaces := by
  have hempty : empty.Holds [] := rfl
  exact holds_foldl_insert hempty namespaces

theorem Operation.holds_apply (operation : Operation) {store : Store} {bindings : Record}
    (h : store.Holds bindings) : (operation.apply store).Holds (operation.extend bindings) := by
  cases operation with
  | exchange name value => exact h.insert name value
  | insert name value => exact h.insert name value
  | ofRecord namespaces => exact holds_ofRecord namespaces
  | ofObject members => exact holds_ofRecord (Value.membersOfJson members)

/-- Every operation keeps the store and the record of what was set in step. -/
theorem holds_build (operations : List Operation) :
    (build operations).Holds (bindings operations) := by
  induction operations using List.reverseRecOn with
  | nil => rfl
  | append_singleton rest operation ih =>
    rw [build, bindings, List.foldl_append, List.foldl_append]
    exact operation.holds_apply ih

theorem names_build (operations : List Operation) :
    (build operations).names =
      ((bindings operations).map fun binding => nameOf binding.1).eraseDups := by
  rw [names, holds_build, Entries.keys_ofList]
  simp [Entries.keys, named, Function.comp_def]

/-- Looking up a name among bindings that are made one after the other finds the last one that
sets the same namespace. -/
theorem get?_build (operations : List Operation) (name : String) :
    (build operations).get? name =
      ((bindings operations).reverse.find? fun binding => nameOf binding.1 = nameOf name).map
        Prod.snd := by
  rw [get?, holds_build, Entries.get?_ofList, ← List.map_reverse]
  induction (bindings operations).reverse with
  | nil => rfl
  | cons binding rest ih =>
    rw [List.map_cons, named, Entries.get?_cons, List.find?_cons]
    by_cases hname : nameOf binding.1 = nameOf name
    · simp [hname]
    · simpa [hname, Ne.symm hname] using ih

/-- A store is made again from its own namespaces. -/
theorem ofRecord_namespaces (store : Store) : ofRecord store.namespaces = store := by
  have hnamed : ∀ entry ∈ store.namespaces, named entry = id entry := by
    intro entry hentry
    have hsigil : hasSigil entry.1 = true := store.sigils _ (List.mem_map_of_mem hentry)
    exact Prod.ext (nameOf_of_hasSigil hsigil) rfl
  apply ext_namespaces
  rw [holds_ofRecord store.namespaces, List.map_congr_left hnamed, List.map_id,
    Entries.ofList_of_distinct store.distinct]

theorem head?_of_hasSigil {name : String} (h : hasSigil name = true) :
    name.toList.head? = some sigil := by
  simpa [hasSigil] using h

/-- A plain name is the address of its namespace. -/
theorem lookup_of_mem (store : Store) {name : String} {value : Value}
    (h : (name, value) ∈ store.namespaces)
    (hplain : ∀ c ∈ name.toList, c ≠ '.' ∧ c ≠ '[' ∧ c ≠ ']') :
    Address.lookup store.toValue name = some value := by
  have hsigil : hasSigil name = true := store.sigils name (List.mem_map_of_mem h)
  have hne : name.toList ≠ [] := by
    intro hnil
    simpa [hnil] using head?_of_hasSigil hsigil
  have hdot : '.' ∉ name.toList := fun hc => (hplain _ hc).1 rfl
  have hbracket : ∀ c ∈ name.toList, Address.isBracket c = false := by
    intro c hc
    simpa [Address.isBracket] using (hplain c hc).2
  rw [Address.lookup, Address.segments_of_plain hne hdot hbracket, Address.follow_cons, toValue,
    Address.step, Entries.get?_of_mem store.distinct h]
  rfl

/-- Every address leads to the whole store, or begins with the sigil, or to nothing. -/
theorem address_of_lookup (store : Store) {path : String} {value : Value}
    (h : Address.lookup store.toValue path = some value) :
    Address.dropDot (Address.dotted false path.toList) = [] ∨
      (Address.dropDot (Address.dotted false path.toList)).head? = some sigil := by
  by_cases hempty : Address.dropDot (Address.dotted false path.toList) = []
  · exact Or.inl hempty
  · obtain ⟨name, hname, rest, hrest⟩ := Address.exists_key_of_lookup h hempty
    right
    rw [← hrest, List.head?_append, head?_of_hasSigil (store.sigils name hname)]
    rfl

/-- Making a store from an object sets its members one after the other. -/
theorem ofJson_object (members : List (String × Json)) :
    ofJson (.object members) =
      .ok (members.foldl (fun store m => store.insert m.1 (Value.ofJson m.2)) empty) := by
  have hmembers : Value.membersOfJson members =
      members.map fun member => (member.1, Value.ofJson member.2) := by
    induction members with
    | nil => rfl
    | cons member rest ih => rw [Value.membersOfJson, ih, List.map_cons]
  rw [ofJson, ofRecord, hmembers, List.foldl_map]

/-- The store has what the bindings say, made one after the other: each namespace in the place
where its name first comes in either spelling, with the value that it was bound to last. -/
structure Represents (store : Store) (bindings : Record) : Prop where
  sigils : ∀ name ∈ store.names, hasSigil name = true
  distinct : store.names.Nodup
  order : store.names = (bindings.map fun binding => nameOf binding.1).eraseDups
  last : ∀ name, store.get? name =
    (bindings.reverse.find? fun binding => nameOf binding.1 = nameOf name).map Prod.snd

/-- A store is a faithful ordered map whatever operations have made it. A name without the sigil
is the one with it. Setting a namespace says what it held and leaves the others as they are.
A store made from a document is the one made from its members, one after the other, and a store
is made again from its own namespaces. The plain name of a namespace is its address, and no
address leads anywhere unless it is empty or begins with the sigil, once its brackets are written
as dots and a leading dot is dropped. -/
theorem build_faithful :
    (∀ operations, (build operations).Represents (bindings operations)) ∧
    (∀ name, hasSigil name = false → nameOf name = "@" ++ name ∧
      nameOf ("@" ++ name) = "@" ++ name) ∧
    (∀ (store : Store) (name : String) (value : Value),
      (store.exchange name value).1 = store.get? name ∧
      (store.exchange name value).2 = store.insert name value ∧
      (∀ other, (store.insert name value).get? other =
        if nameOf other = nameOf name then some value else store.get? other) ∧
      (store.insert name value).names =
        if nameOf name ∈ store.names then store.names else store.names ++ [nameOf name]) ∧
    (∀ members, ofJson (.object members) =
        .ok (members.foldl (fun store m => store.insert m.1 (Value.ofJson m.2)) empty)) ∧
    (∀ document namespaces, Value.ofJson document = .object namespaces →
      ofJson document = .ok (ofRecord namespaces)) ∧
    (∀ store : Store, ofRecord store.namespaces = store) ∧
    (∀ (store : Store) (name : String) (value : Value), (name, value) ∈ store.namespaces →
      (∀ c ∈ name.toList, c ≠ '.' ∧ c ≠ '[' ∧ c ≠ ']') →
      Address.lookup store.toValue name = some value) ∧
    ∀ (store : Store) (path : String) (value : Value),
      Address.lookup store.toValue path = some value →
      Address.dropDot (Address.dotted false path.toList) = [] ∨
        (Address.dropDot (Address.dotted false path.toList)).head? = some sigil := by
  refine ⟨fun operations => ⟨(build operations).sigils, (build operations).distinct,
    names_build operations, get?_build operations⟩, fun name hname => ⟨?_, ?_⟩,
    fun store name value => ⟨rfl, rfl, (store.get?_insert name · value), ?_⟩,
    ofJson_object, fun document namespaces h => ?_, ofRecord_namespaces,
    fun store _ _ => store.lookup_of_mem, fun store _ _ => store.address_of_lookup⟩
  · simp [nameOf, hname]
  · exact nameOf_of_hasSigil (by simp [hasSigil, sigil])
  · exact Entries.keys_insert store.namespaces (nameOf name) value
  · cases document with
    | object members =>
      rw [Value.ofJson, Value.object.injEq] at h
      rw [ofJson, h]
    | _ => simp [Value.ofJson] at h

def collidingOperations : List Operation := [
  .ofObject [("a", .null), ("@b", .bool true), ("@a", .bool false)],
  .exchange "b" (.string "late")]

theorem build_faithful_colliding :
    (build collidingOperations).names = ["@a", "@b"] ∧
    (build collidingOperations).get? "a" = some (.bool false) ∧
    Address.lookup (build collidingOperations).toValue "@b" = some (.string "late") := by
  obtain ⟨hbuild, -, -, -, -, -, hlookup, -⟩ := build_faithful
  have hstore := hbuild collidingOperations
  refine ⟨hstore.order.trans (by decide), (hstore.last "a").trans rfl, ?_⟩
  exact hlookup _ "@b" _ (List.mem_cons_of_mem _ List.mem_cons_self) (by simp)

end RuleTemplate.Store
