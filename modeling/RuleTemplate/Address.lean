import RuleTemplate.Text.Integer
import RuleTemplate.Value.Basic

/-!
Addresses: paths into a value. Segments stand between dots; a segment in brackets is one
after a dot, and one dot at the very front means nothing. A segment names an object
member, or a list element by its decimal index.
-/
namespace RuleTemplate.Address

def isBracket (c : Char) : Bool := c == '[' || c == ']'

def closesNext (text : List Char) : Bool := text.find? isBracket == some ']'

/-- Writes every bracketed segment after a dot. The flag says that the next closing
bracket ends a segment; brackets that enclose none stay as they are. -/
def dotted (inside : Bool) : List Char → List Char
  | [] => []
  | c :: rest =>
    if c = '[' then
      if closesNext rest then '.' :: dotted true rest else c :: dotted false rest
    else if c = ']' then
      if inside then dotted false rest else c :: dotted false rest
    else c :: dotted inside rest

def dropDot : List Char → List Char
  | '.' :: rest => rest
  | text => text

def segments (path : String) : List String :=
  let text := dropDot (dotted false path.toList)
  if text = [] then [] else (text.splitOn '.').map String.ofList

def index? (segment : String) : Option Nat :=
  let digits := segment.toList
  if digits ≠ [] ∧ digits.all Char.isDigit then some (Text.digitsValue digits) else none

def step (v : Value) (segment : String) : Option Value :=
  match v with
  | .object members => Entries.get? members segment
  | .array items => (index? segment).bind (items[·]?)
  | _ => none

def follow (v : Value) (path : List String) : Option Value := path.foldlM step v

def lookup (root : Value) (path : String) : Option Value := follow root (segments path)

theorem dotted_of_notMem {text : List Char} (h : ∀ c ∈ text, isBracket c = false)
    (inside : Bool) : dotted inside text = text := by
  induction text with
  | nil => rfl
  | cons c rest ih =>
    have hc := h c List.mem_cons_self
    simp only [isBracket, Bool.or_eq_false_iff, beq_eq_false_iff_ne] at hc
    rw [dotted, if_neg hc.1, if_neg hc.2, ih fun d hd => h d (List.mem_cons_of_mem _ hd)]

/-- A name without dots and brackets is the one segment of its path. -/
theorem segments_of_plain {name : String} (hne : name.toList ≠ []) (hdot : '.' ∉ name.toList)
    (hbracket : ∀ c ∈ name.toList, isBracket c = false) : segments name = [name] := by
  have hdrop : dropDot (dotted false name.toList) = name.toList := by
    rw [dotted_of_notMem hbracket]
    unfold dropDot
    split
    · next rest htext => simp [htext] at hdot
    · rfl
  rw [segments, hdrop, if_neg hne, List.splitOn_eq_singleton hdot]
  simp

theorem follow_nil (v : Value) : follow v [] = some v := rfl

theorem follow_cons (v : Value) (segment : String) (path : List String) :
    follow v (segment :: path) = (step v segment).bind (follow · path) := rfl

/-- Following a path in two parts is following one and then the other. -/
theorem follow_append (v : Value) (first second : List String) :
    follow v (first ++ second) = (follow v first).bind (follow · second) := by
  induction first generalizing v with
  | nil => rfl
  | cons segment rest ih =>
    rw [List.cons_append, follow_cons, follow_cons]
    cases step v segment with
    | none => rfl
    | some next => exact ih next

/-- A path that leads from an object to something is empty, or begins with the name of
a member. -/
theorem exists_key_of_lookup {members : Record} {path : String} {v : Value}
    (h : lookup (.object members) path = some v)
    (hne : dropDot (dotted false path.toList) ≠ []) :
    ∃ key ∈ members.keys, key.toList <+: dropDot (dotted false path.toList) := by
  obtain ⟨first, rest, hsplit⟩ := List.exists_cons_of_ne_nil
    (List.splitOn_ne_nil '.' (dropDot (dotted false path.toList)))
  have hjoined : ['.'].intercalate ((dropDot (dotted false path.toList)).splitOn '.') =
      dropDot (dotted false path.toList) := List.intercalate_splitOn '.'
  have hprefix : first <+: dropDot (dotted false path.toList) := by
    rw [← hjoined, hsplit]
    cases rest with
    | nil => simp
    | cons next others => simp [List.intercalate_cons_cons]
  rw [lookup, segments, if_neg hne, hsplit, List.map_cons, follow_cons,
    Option.bind_eq_some_iff] at h
  obtain ⟨found, hfound, -⟩ := h
  refine ⟨String.ofList first, Decidable.byContradiction fun hnone => ?_, by simpa using hprefix⟩
  simp [step, Entries.get?_eq_none.mpr hnone] at hfound

end RuleTemplate.Address
