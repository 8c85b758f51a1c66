import RuleTemplate.Proofs.Address

/-!
All spellings of a path are the same path. A segment stands after a dot or in brackets, and the
first one may do without either. What is looked up depends on the segments alone: each of them
names a part of what the one before it has led to.
-/
namespace RuleTemplate.Address

/-- A segment that ends where the next mark begins, however it is written. -/
structure Segment where
  chars : List Char
  ne_nil : chars ≠ []
  dot_notMem : '.' ∉ chars
  bracket_notMem : ∀ c ∈ chars, isBracket c = false

def Segment.text (s : Segment) : String := String.ofList s.chars

/-- The text writes the segments, each after a dot or in brackets. -/
inductive Marked : List Segment → List Char → Prop
  | nil : Marked [] []
  | dot (s : Segment) {rest : List Segment} {text : List Char} :
      Marked rest text → Marked (s :: rest) ('.' :: (s.chars ++ text))
  | brackets (s : Segment) {rest : List Segment} {text : List Char} :
      Marked rest text → Marked (s :: rest) ('[' :: (s.chars ++ ']' :: text))

/-- The text spells the path. Its first segment needs no mark. -/
inductive Spells : List Segment → List Char → Prop
  | bare (s : Segment) {rest : List Segment} {text : List Char} :
      Marked rest text → Spells (s :: rest) (s.chars ++ text)
  | marked {path : List Segment} {text : List Char} : Marked path text → Spells path text

/-- The part of a value under a segment: the member of an object with that name, or the element
of a list at the place that the segment, all of it digits, writes. -/
inductive Part : Value → String → Value → Prop
  | member {members : Record} {name : String} {v : Value} :
      Entries.get? members name = some v → Part (.object members) name v
  | element {items : List Value} {segment : String} {v : Value} :
      segment.toList ≠ [] → (∀ c ∈ segment.toList, c.isDigit = true) →
      items[Text.digitsValue segment.toList]? = some v → Part (.array items) segment v

inductive Leads : Value → List String → Value → Prop
  | nil {v : Value} : Leads v [] v
  | cons {v next w : Value} {segment : String} {rest : List String} :
      Part v segment next → Leads next rest w → Leads v (segment :: rest) w

theorem Marked.append {front back : List Segment} {before after : List Char}
    (hfront : Marked front before) (hback : Marked back after) :
    Marked (front ++ back) (before ++ after) := by
  induction hfront with
  | nil => exact hback
  | dot s _ ih => simpa using Marked.dot s ih
  | brackets s _ ih => simpa using Marked.brackets s ih

theorem Spells.append {front back : List Segment} {before after : List Char}
    (hfront : Spells front before) (hback : Marked back after) :
    Spells (front ++ back) (before ++ after) := by
  cases hfront with
  | bare s hrest => simpa using Spells.bare s (hrest.append hback)
  | marked hmarked => exact .marked (hmarked.append hback)

/-- Every mark becomes a dot. -/
theorem dotted_of_marked {path : List Segment} {text : List Char} (h : Marked path text) :
    dotted false text = path.flatMap fun s => '.' :: s.chars := by
  induction h with
  | nil => rfl
  | dot s _ ih =>
    have hdot : ∀ c ∈ ['.'], isBracket c = false := by simp [isBracket]
    rw [← List.singleton_append, dotted_append hdot, dotted_append s.bracket_notMem, ih]
    simp
  | brackets s _ ih =>
    rw [dotted, if_pos rfl, closesNext_segment s.bracket_notMem, if_pos rfl,
      dotted_append s.bracket_notMem, dotted, if_neg (by simp), if_pos rfl, if_pos rfl, ih]
    simp

theorem dropDot_append {s : Segment} (rest : List Char) :
    dropDot (s.chars ++ rest) = s.chars ++ rest := by
  obtain ⟨first, others, hchars⟩ := List.exists_cons_of_ne_nil s.ne_nil
  have hfirst : first ≠ '.' := by
    rintro rfl
    exact s.dot_notMem (by simp [hchars])
  rw [hchars, List.cons_append]
  unfold dropDot
  split
  · next heq => exact absurd (List.cons.inj heq).1 hfirst
  · rfl

theorem intercalate_chars (s : Segment) (rest : List Segment) :
    ['.'].intercalate ((s :: rest).map Segment.chars) =
      s.chars ++ rest.flatMap fun s => '.' :: s.chars := by
  induction rest generalizing s with
  | nil => simp
  | cons next others ih =>
    rw [List.map_cons, List.intercalate_cons_of_ne_nil (by simp), ih next]
    simp

/-- Whatever the spelling, what is cut into segments has dots between them. -/
theorem dropDot_of_spells {path : List Segment} {text : List Char} (h : Spells path text) :
    dropDot (dotted false text) = ['.'].intercalate (path.map Segment.chars) := by
  cases h with
  | bare s hrest =>
    rw [dotted_append s.bracket_notMem, dotted_of_marked hrest, dropDot_append, intercalate_chars]
  | marked hmarked =>
    rw [dotted_of_marked hmarked]
    cases path with
    | nil => rfl
    | cons s rest =>
      rw [intercalate_chars, List.flatMap_cons]
      rfl

/-- The segments are read off every spelling of their path. -/
theorem segments_of_spells {path : List Segment} {text : List Char} (h : Spells path text) :
    segments (String.ofList text) = path.map Segment.text := by
  have hdots := dropDot_of_spells h
  simp only [segments, String.toList_ofList, hdots]
  cases path with
  | nil => rfl
  | cons s rest =>
    have hne : ['.'].intercalate ((s :: rest).map Segment.chars) ≠ [] := by
      rw [intercalate_chars]
      exact List.append_ne_nil_of_left_ne_nil s.ne_nil _
    have hdot : ∀ chars ∈ (s :: rest).map Segment.chars, '.' ∉ chars := by
      intro chars hchars
      obtain ⟨segment, -, rfl⟩ := List.mem_map.mp hchars
      exact segment.dot_notMem
    rw [if_neg hne, List.splitOn_intercalate '.' hdot (by simp), List.map_map]
    rfl

theorem index?_eq_some_iff {segment : String} {i : Nat} :
    index? segment = some i ↔ segment.toList ≠ [] ∧
      (∀ c ∈ segment.toList, c.isDigit = true) ∧ Text.digitsValue segment.toList = i := by
  simp only [index?, Option.ite_none_right_eq_some, Option.some.injEq, List.all_eq_true, and_assoc]

theorem step_eq_some_iff {v w : Value} {segment : String} :
    step v segment = some w ↔ Part v segment w := by
  constructor
  · intro hstep
    cases v with
    | object members => exact .member hstep
    | array items =>
      obtain ⟨i, hindex, hitem⟩ := Option.bind_eq_some_iff.mp hstep
      obtain ⟨hne, hdigits, rfl⟩ := index?_eq_some_iff.mp hindex
      exact .element hne hdigits hitem
    | _ => simp [step] at hstep
  · intro hpart
    cases hpart with
    | member hget => exact hget
    | element hne hdigits hitem =>
      have hindex := index?_eq_some_iff.mpr ⟨hne, hdigits, rfl⟩
      rw [step, hindex]
      exact hitem

/-- A path leads to what its segments lead to one after the other. -/
theorem follow_eq_some_iff {v w : Value} {path : List String} :
    follow v path = some w ↔ Leads v path w := by
  induction path generalizing v with
  | nil =>
    rw [follow_nil, Option.some.injEq]
    constructor
    · rintro rfl
      exact .nil
    · intro hleads
      cases hleads
      rfl
  | cons segment rest ih =>
    rw [follow_cons, Option.bind_eq_some_iff]
    constructor
    · rintro ⟨next, hstep, hrest⟩
      exact .cons (step_eq_some_iff.mp hstep) (ih.mp hrest)
    · intro hleads
      cases hleads with
      | cons hpart hrest => exact ⟨_, step_eq_some_iff.mpr hpart, ih.mpr hrest⟩

theorem lookup_of_spells {path : List Segment} {text : List Char} (h : Spells path text)
    (root : Value) : lookup root (String.ofList text) = follow root (path.map Segment.text) := by
  rw [lookup, segments_of_spells h]

theorem lookup_of_spells_append {front back : List Segment} {whole before after : List Char}
    (hwhole : Spells (front ++ back) whole) (hfront : Spells front before)
    (hback : Spells back after) (root : Value) :
    lookup root (String.ofList whole) =
      (lookup root (String.ofList before)).bind (lookup · (String.ofList after)) := by
  have hafter (v : Value) :
      lookup v (String.ofList after) = follow v (back.map Segment.text) := lookup_of_spells hback v
  rw [lookup_of_spells hwhole, lookup_of_spells hfront, List.map_append, follow_append]
  simp only [hafter]

/-- A look-up goes through the segments from left to right, however they are spelled, and finds
something if and only if they lead there. A path in two parts is looked up by looking up the first
one and then the second one in what was found, whether the whole is spelled in a way of its own or
the spelling of the second part is put after that of the first. -/
theorem lookup_spelled (root : Value) :
    (∀ (path : List Segment) (text : List Char), Spells path text →
      lookup root (String.ofList text) = (path.map Segment.text).foldlM step root ∧
      ∀ v, lookup root (String.ofList text) = some v ↔ Leads root (path.map Segment.text) v) ∧
    (∀ (front back : List Segment) (whole before after : List Char),
      Spells (front ++ back) whole → Spells front before → Spells back after →
      lookup root (String.ofList whole) =
        (lookup root (String.ofList before)).bind (lookup · (String.ofList after))) ∧
    ∀ (front back : List Segment) (before after : List Char),
      Spells front before → Marked back after →
      lookup root (String.ofList (before ++ after)) =
        (lookup root (String.ofList before)).bind (lookup · (String.ofList after)) := by
  refine ⟨fun path text hspells => ⟨lookup_of_spells hspells root, fun v => ?_⟩,
    fun front back whole before after hwhole hfront hback =>
      lookup_of_spells_append hwhole hfront hback root,
    fun front back before after hfront hback =>
      lookup_of_spells_append (hfront.append hback) hfront (.marked hback) root⟩
  rw [lookup_of_spells hspells]
  exact follow_eq_some_iff

def listedRoot : Value :=
  .object [("@ns", .object [("items", .array [.null, .object [("title", .string "Ada")]])])]

def listPath : List Segment := [
  ⟨['@', 'n', 's'], by simp, by simp, by simp [isBracket]⟩,
  ⟨['i', 't', 'e', 'm', 's'], by simp, by simp, by simp [isBracket]⟩]

def elementPath : List Segment := [
  ⟨['0', '1'], by simp, by simp, by simp [isBracket]⟩,
  ⟨['t', 'i', 't', 'l', 'e'], by simp, by simp, by simp [isBracket]⟩]

theorem lookup_spelled_listed :
    Spells (listPath ++ elementPath) "[@ns].items.01[title]".toList ∧
    Spells listPath "@ns[items]".toList ∧ Marked elementPath "[01].title".toList ∧
    lookup listedRoot (String.ofList "[@ns].items.01[title]".toList) = some (.string "Ada") ∧
    (lookup listedRoot (String.ofList "@ns[items]".toList)).bind
      (lookup · (String.ofList "[01].title".toList)) = some (.string "Ada") ∧
    lookup listedRoot (String.ofList ("@ns[items]".toList ++ "[01].title".toList)) =
      some (.string "Ada") := by
  have hwhole : Spells (listPath ++ elementPath) "[@ns].items.01[title]".toList :=
    .marked (.brackets _ (.dot _ (.dot _ (.brackets _ .nil))))
  have hfront : Spells listPath "@ns[items]".toList := .bare _ (.brackets _ .nil)
  have hback : Marked elementPath "[01].title".toList := .brackets _ (.dot _ .nil)
  have hdigits : ∀ c ∈ ['0', '1'], c.isDigit = true := by simp
  have hleads : Leads listedRoot ((listPath ++ elementPath).map Segment.text) (.string "Ada") :=
    .cons (.member rfl) (.cons (.member rfl) (.cons (.element (by decide) hdigits rfl)
      (.cons (.member rfl) .nil)))
  obtain ⟨hsame, hparts, hput⟩ := lookup_spelled listedRoot
  have hfound := ((hsame _ _ hwhole).2 _).mpr hleads
  have hbind := (hparts _ _ _ _ _ hwhole hfront (.marked hback)).symm.trans hfound
  exact ⟨hwhole, hfront, hback, hfound, hbind, (hput _ _ _ _ hfront hback).trans hbind⟩

end RuleTemplate.Address
