import RuleTemplate.Json.Writer
import RuleTemplate.Proofs.Number

/-!
The text of a document on one line tells which document it is. Nothing but the document has a
text that another text begins with: a string ends at its closing quote, which its characters do
not contain, a list or an object at its bracket, and a number before the first character that
does not stand in a number.
-/
namespace RuleTemplate.Json

theorem joinPieces_code {n : Nat} (h : n < 0xD800) (pieces : List Piece) :
    joinPieces (.code n :: pieces) = (joinPieces pieces).map (Char.ofNat n :: ·) := by
  have hhigh : isHighSurrogate n = false := by simp [isHighSurrogate]; omega
  have hlow : isLowSurrogate n = false := by simp [isLowSurrogate]; omega
  cases pieces with
  | nil => simp [joinPieces, hhigh, hlow]
  | cons piece rest => cases piece <;> simp [joinPieces, hhigh, hlow]

theorem hexCode?_control : ∀ n < 0x20,
    hexCode? '0' '0' (Nat.digitChar (n / 16)) (Nat.digitChar (n % 16)) = some n := by
  decide

section Reading

variable {rest after : List Char} {pieces : List Piece}

theorem readPieces_escape {letter c : Char} (hletter : letter ≠ 'u')
    (hescaped : escaped? letter = some c) (h : readPieces rest = some (pieces, after)) :
    readPieces ('\\' :: letter :: rest) = some (.char c :: pieces, after) := by
  rw [readPieces]
  · simp [hescaped, h]
  · simp [hletter]

theorem readPieces_control {c : Char} (hc : c.toNat < 0x20)
    (h : readPieces rest = some (pieces, after)) :
    readPieces (['\\', 'u', '0', '0', Nat.digitChar (c.toNat / 16), Nat.digitChar (c.toNat % 16)] ++
      rest) = some (.code c.toNat :: pieces, after) := by
  simp [readPieces, hexCode?_control c.toNat hc, h]

theorem readPieces_plain {c : Char} (hquote : c ≠ '"') (hbackslash : c ≠ '\\')
    (hc : ¬c.toNat < 0x20) (h : readPieces rest = some (pieces, after)) :
    readPieces (c :: rest) = some (.char c :: pieces, after) := by
  rw [readPieces]
  · simp [hbackslash, hc, h]
  · simp [hquote]
  · simp [hbackslash]
  · simp [hbackslash]

/-- The reader makes one piece of a written character, which stands for the character. -/
theorem readPieces_writtenChar (c : Char) (h : readPieces rest = some (pieces, after)) :
    ∃ piece, readPieces (writtenChar c ++ rest) = some (piece :: pieces, after) ∧
      joinPieces (piece :: pieces) = (joinPieces pieces).map (c :: ·) := by
  have hshort {letter : Char} (hletter : letter ≠ 'u') (hescaped : escaped? letter = some c) :
      ∃ piece, readPieces (['\\', letter] ++ rest) = some (piece :: pieces, after) ∧
        joinPieces (piece :: pieces) = (joinPieces pieces).map (c :: ·) :=
    ⟨.char c, readPieces_escape hletter hescaped h, rfl⟩
  unfold writtenChar
  split_ifs with hquote hbackslash hb hf hn hr ht hcontrol
  · exact hshort (by decide) (by rw [hquote]; rfl)
  · exact hshort (by decide) (by rw [hbackslash]; rfl)
  · exact hshort (by decide) (by rw [hb]; rfl)
  · exact hshort (by decide) (by rw [hf]; rfl)
  · exact hshort (by decide) (by rw [hn]; rfl)
  · exact hshort (by decide) (by rw [hr]; rfl)
  · exact hshort (by decide) (by rw [ht]; rfl)
  · refine ⟨.code c.toNat, readPieces_control hcontrol h, ?_⟩
    rw [joinPieces_code (by omega), Char.ofNat_toNat]
  · exact ⟨.char c, readPieces_plain hquote hbackslash hcontrol h, rfl⟩

end Reading

/-- The reader finds the string that was written, up to its closing quote. -/
theorem readString_written (chars rest : List Char) :
    readString (chars.flatMap writtenChar ++ '"' :: rest) = some (String.ofList chars, rest) := by
  have hread : ∃ pieces, readPieces (chars.flatMap writtenChar ++ '"' :: rest) =
      some (pieces, rest) ∧ joinPieces pieces = some chars := by
    induction chars with
    | nil => exact ⟨[], rfl, rfl⟩
    | cons c others ih =>
      obtain ⟨pieces, hpieces, hjoin⟩ := ih
      obtain ⟨piece, hpiece, hjoined⟩ := readPieces_writtenChar c hpieces
      refine ⟨piece :: pieces, ?_, by rw [hjoined, hjoin]; rfl⟩
      rw [List.flatMap_cons, List.append_assoc, hpiece]
  obtain ⟨pieces, hpieces, hjoin⟩ := hread
  simp [readString, hpieces, hjoin]

/-- What follows a value in a text does not go on with a number. -/
def Ends (rest : List Char) : Prop := ∀ c ∈ rest.head?, Numeral.isNumeralChar c = false

theorem ends_cons {c : Char} (h : Numeral.isNumeralChar c = false) (rest : List Char) :
    Ends (c :: rest) := by
  intro d hd
  rwa [← Option.mem_some_iff.mp hd]

/-- A text that begins with the text of `x` begins with no other one, and tells where it ends. -/
def Delimited {α : Type} (text : α → List Char) (x : α) : Prop :=
  ∀ y rest rest', Ends rest → Ends rest' → text x ++ rest = text y ++ rest' → x = y ∧ rest = rest'

section Sequence

variable {α : Type} (text : α → List Char) {close : Char}

def further : List α → List Char
  | [] => []
  | x :: rest => ',' :: (text x ++ further rest)

theorem intercalate_map_cons (x : α) (rest : List α) :
    [','].intercalate ((x :: rest).map text) = text x ++ further text rest := by
  induction rest generalizing x with
  | nil => simp [further]
  | cons next others ih =>
    rw [List.map_cons, List.map_cons, List.intercalate_cons_cons, ← List.map_cons, ih next,
      further, List.append_assoc, List.singleton_append]

variable {text}

theorem ends_further (hclose : Numeral.isNumeralChar close = false) (xs : List α)
    (rest : List Char) : Ends (further text xs ++ close :: rest) := by
  cases xs with
  | nil => exact ends_cons hclose rest
  | cons x xs => exact ends_cons rfl _

theorem delimited_further (hclose : Numeral.isNumeralChar close = false) (hcomma : close ≠ ',')
    {xs ys : List α} (hxs : ∀ x ∈ xs, Delimited text x) {rest rest' : List Char}
    (h : further text xs ++ close :: rest = further text ys ++ close :: rest') :
    xs = ys ∧ rest = rest' := by
  induction xs generalizing ys with
  | nil =>
    cases ys with
    | nil => exact ⟨rfl, by simpa [further] using h⟩
    | cons y ys => simp [further, hcomma] at h
  | cons x xs ih =>
    cases ys with
    | nil => simp [further, hcomma.symm] at h
    | cons y ys =>
      simp only [further, List.cons_append, List.cons.injEq, true_and, List.append_assoc] at h
      obtain ⟨rfl, hrest⟩ := hxs x List.mem_cons_self y _ _ (ends_further hclose xs rest)
        (ends_further hclose ys rest') h
      obtain ⟨rfl, rfl⟩ := ih (fun z hz => hxs z (List.mem_cons_of_mem _ hz)) hrest
      exact ⟨rfl, rfl⟩

/-- Elements with commas between them, up to a closing bracket that begins none of them. -/
theorem delimited_sequence (hclose : Numeral.isNumeralChar close = false) (hcomma : close ≠ ',')
    (hfirst : ∀ x : α, ∀ tail, text x ≠ close :: tail) (hne : ∀ x : α, text x ≠ [])
    {xs ys : List α} (hxs : ∀ x ∈ xs, Delimited text x) {rest rest' : List Char}
    (h : [','].intercalate (xs.map text) ++ close :: rest =
      [','].intercalate (ys.map text) ++ close :: rest') : xs = ys ∧ rest = rest' := by
  have hopen (x : α) (others : List α) (before after : List Char) :
      close :: before ≠ [','].intercalate ((x :: others).map text) ++ after := by
    obtain ⟨c, tail, hx⟩ := List.exists_cons_of_ne_nil (hne x)
    rw [intercalate_map_cons, hx, List.cons_append, List.cons_append]
    intro heq
    obtain ⟨rfl, -⟩ := List.cons.inj heq
    exact hfirst x tail hx
  cases xs with
  | nil =>
    cases ys with
    | nil => exact ⟨rfl, by simpa using h⟩
    | cons y ys => exact absurd h (hopen y ys rest _)
  | cons x xs =>
    cases ys with
    | nil => exact absurd h.symm (hopen x xs rest' _)
    | cons y ys =>
      rw [intercalate_map_cons, intercalate_map_cons, List.append_assoc, List.append_assoc] at h
      obtain ⟨rfl, hrest⟩ := hxs x List.mem_cons_self y _ _ (ends_further hclose xs rest)
        (ends_further hclose ys rest') h
      obtain ⟨rfl, rfl⟩ :=
        delimited_further hclose hcomma (fun z hz => hxs z (List.mem_cons_of_mem _ hz)) hrest
      exact ⟨rfl, rfl⟩

end Sequence

section Text

def textOf (j : Json) : List Char := j.compact.toList

def memberText (member : String × Json) : List Char :=
  '"' :: (member.1.toList.flatMap writtenChar ++ '"' :: ':' :: textOf member.2)

theorem textOf_string (s : String) :
    textOf (string s) = '"' :: (s.toList.flatMap writtenChar ++ ['"']) := by
  simp [textOf, compact, writtenString]

theorem textOf_array (items : List Json) :
    textOf (array items) = '[' :: ([','].intercalate (items.map textOf) ++ [']']) := by
  have hitems : (compactItems items).map String.toList = items.map textOf := by
    induction items with
    | nil => rfl
    | cons item rest ih => rw [compactItems, List.map_cons, List.map_cons, ih, textOf]
  simp [textOf, compact, String.toList_intercalate, hitems]

theorem textOf_object (members : List (String × Json)) :
    textOf (object members) =
      '\x7b' :: ([','].intercalate (members.map memberText) ++ ['\x7d']) := by
  have hmembers : (compactMembers members).map String.toList = members.map memberText := by
    induction members with
    | nil => rfl
    | cons member rest ih =>
      rw [compactMembers, List.map_cons, List.map_cons, ih]
      simp [memberText, textOf, writtenString]
  simp [textOf, compact, String.toList_intercalate, hmembers]

inductive Kind
  | null
  | bool
  | number
  | string
  | array
  | object
deriving DecidableEq

def kind : Json → Kind
  | null => .null
  | bool _ => .bool
  | number _ => .number
  | string _ => .string
  | array _ => .array
  | object _ => .object

def kindOfChar (c : Char) : Kind :=
  if c = 'n' then .null
  else if c = 't' ∨ c = 'f' then .bool
  else if c = '"' then .string
  else if c = '[' then .array
  else if c = '\x7b' then .object
  else .number

theorem kindOfChar_numeralChar {c : Char} (h : Numeral.isNumeralChar c = true) :
    kindOfChar c = .number := by
  have hne {d : Char} (hd : Numeral.isNumeralChar d = false) : c ≠ d := by
    rintro rfl
    simp [h] at hd
  simp only [kindOfChar, hne (d := 'n') rfl, hne (d := 't') rfl, hne (d := 'f') rfl,
    hne (d := '"') rfl, hne (d := '[') rfl, hne (d := '\x7b') rfl, or_self, if_false]

/-- The first character of a text tells what the document is, and no text begins with a closing
bracket. -/
theorem exists_head_textOf (j : Json) :
    ∃ c tail, textOf j = c :: tail ∧ kindOfChar c = j.kind ∧ c ≠ ']' := by
  cases j with
  | null => exact ⟨'n', ['u', 'l', 'l'], by simp [textOf, compact], rfl, by decide⟩
  | bool b =>
    cases b with
    | true => exact ⟨'t', ['r', 'u', 'e'], by simp [textOf, compact, boolText], rfl, by decide⟩
    | false =>
      exact ⟨'f', ['a', 'l', 's', 'e'], by simp [textOf, compact, boolText], rfl, by decide⟩
  | number n =>
    obtain ⟨c, tail, hc⟩ := List.exists_cons_of_ne_nil n.jsonText_ne_nil
    have hnumeral := n.isNumeralChar_of_mem_jsonText c (by simp [hc])
    refine ⟨c, tail, hc, kindOfChar_numeralChar hnumeral, ?_⟩
    rintro rfl
    exact absurd hnumeral (by decide)
  | string s => exact ⟨'"', _, textOf_string s, rfl, by decide⟩
  | array items => exact ⟨'[', _, textOf_array items, rfl, by decide⟩
  | object members => exact ⟨'\x7b', _, textOf_object members, rfl, by decide⟩

theorem textOf_ne_nil (j : Json) : textOf j ≠ [] := by
  obtain ⟨c, tail, hc, -⟩ := exists_head_textOf j
  simp [hc]

theorem textOf_ne_bracket (j : Json) (tail : List Char) : textOf j ≠ ']' :: tail := by
  obtain ⟨c, others, hc, -, hne⟩ := exists_head_textOf j
  simp [hc, hne]

theorem kind_eq_of_append_eq {x y : Json} {rest rest' : List Char}
    (h : textOf x ++ rest = textOf y ++ rest') : x.kind = y.kind := by
  obtain ⟨c, tail, hx, hkind, -⟩ := exists_head_textOf x
  obtain ⟨d, tail', hy, hkind', -⟩ := exists_head_textOf y
  rw [hx, hy, List.cons_append, List.cons_append, List.cons.injEq] at h
  rw [← hkind, ← hkind', h.1]

end Text

section Delimited

theorem delimited_number (n : Number) : Delimited textOf (number n) := by
  intro y rest rest' hrest hrest' h
  have hkind := kind_eq_of_append_eq h
  cases y with
  | number m =>
    obtain ⟨htake, hdrop⟩ :=
      Text.takeWhile_dropWhile_append n.isNumeralChar_of_mem_jsonText hrest
    obtain ⟨htake', hdrop'⟩ :=
      Text.takeWhile_dropWhile_append m.isNumeralChar_of_mem_jsonText hrest'
    have htext : n.jsonText.toList ++ rest = m.jsonText.toList ++ rest' := h
    rw [htext] at htake hdrop
    have hnumber : m = n :=
      Number.jsonText_injective (String.toList_injective (htake'.symm.trans htake))
    exact ⟨by rw [hnumber], hdrop.symm.trans hdrop'⟩
  | _ => simp [kind] at hkind

theorem delimited_string (s : String) : Delimited textOf (string s) := by
  intro y rest rest' _ _ h
  have hkind := kind_eq_of_append_eq h
  cases y with
  | string t =>
    simp only [textOf_string, List.cons_append, List.append_assoc, List.cons.injEq, true_and,
      List.nil_append] at h
    have hread := readString_written s.toList rest
    rw [h, readString_written] at hread
    simp only [String.ofList_toList, Option.some.injEq, Prod.mk.injEq] at hread
    exact ⟨by rw [hread.1], hread.2.symm⟩
  | _ => simp [kind] at hkind

theorem delimited_member {member : String × Json} (h : Delimited textOf member.2) :
    Delimited memberText member := by
  intro other rest rest' hrest hrest' heq
  simp only [memberText, List.cons_append, List.append_assoc, List.cons.injEq, true_and] at heq
  have hread := readString_written member.1.toList (':' :: (textOf member.2 ++ rest))
  rw [heq, readString_written] at hread
  simp only [String.ofList_toList, Option.some.injEq, Prod.mk.injEq, List.cons.injEq,
    true_and] at hread
  obtain ⟨hvalue, rfl⟩ := h other.2 rest rest' hrest hrest' hread.2.symm
  exact ⟨Prod.ext hread.1.symm hvalue, rfl⟩

mutual

/-- The text of a document on one line can be told apart from what follows it. -/
theorem delimited_compact : ∀ j : Json, Delimited textOf j
  | .null => by
    intro y rest rest' _ _ h
    -- The first characters are the same, and they tell the kinds of documents apart.
    have hkind := kind_eq_of_append_eq h
    cases y with
    | null => exact ⟨rfl, List.append_cancel_left h⟩
    | _ => simp [kind] at hkind
  | .bool b => by
    intro y rest rest' _ _ h
    have hkind := kind_eq_of_append_eq h
    cases y with
    | bool b' =>
      cases b <;> cases b' <;> simp_all [textOf, compact, boolText]
    | _ => simp [kind] at hkind
  | .number n => delimited_number n
  | .string s => delimited_string s
  | .array items => by
    intro y rest rest' _ _ h
    have hkind := kind_eq_of_append_eq h
    cases y with
    | array others =>
      simp only [textOf_array, List.cons_append, List.append_assoc, List.cons.injEq, true_and,
        List.nil_append] at h
      obtain ⟨rfl, rfl⟩ := delimited_sequence rfl (by decide) textOf_ne_bracket textOf_ne_nil
        (delimited_items items) h
      exact ⟨rfl, rfl⟩
    | _ => simp [kind] at hkind
  | .object members => by
    intro y rest rest' _ _ h
    have hkind := kind_eq_of_append_eq h
    cases y with
    | object others =>
      simp only [textOf_object, List.cons_append, List.append_assoc, List.cons.injEq, true_and,
        List.nil_append] at h
      obtain ⟨rfl, rfl⟩ := delimited_sequence rfl (by decide) (by simp [memberText])
        (by simp [memberText]) (delimited_members members) h
      exact ⟨rfl, rfl⟩
    | _ => simp [kind] at hkind
termination_by structural j => j

theorem delimited_items : ∀ items : List Json, ∀ item ∈ items, Delimited textOf item
  | [] => by simp
  | item :: rest => List.forall_mem_cons.mpr ⟨delimited_compact item, delimited_items rest⟩
termination_by structural items => items

theorem delimited_members :
    ∀ members : List (String × Json), ∀ member ∈ members, Delimited memberText member
  | [] => by simp
  | (_, value) :: rest =>
    List.forall_mem_cons.mpr ⟨delimited_member (delimited_compact value), delimited_members rest⟩
termination_by structural members => members

end

end Delimited

/-- Different documents have different texts: in the order of members, in strings and in
numbers, at every depth. -/
theorem compact_injective {x y : Json} (h : x.compact = y.compact) : x = y := by
  have hends : Ends [] := by simp [Ends]
  have htext : textOf x ++ [] = textOf y ++ [] := by simp [textOf, h]
  exact (delimited_compact x y [] [] hends hends htext).1

end RuleTemplate.Json
