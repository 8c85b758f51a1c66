/-!
Places in a text by the number of bytes before them, in UTF-8.
-/
namespace RuleTemplate.Text

def byteSize : List Char → Nat
  | [] => 0
  | c :: rest => c.utf8Size + byteSize rest

/-- What follows the first so many bytes; a character that they end inside is left out. -/
def dropBytes : Nat → List Char → List Char
  | _, [] => []
  | 0, c :: rest => c :: rest
  | n + 1, c :: rest => dropBytes (n + 1 - c.utf8Size) rest

/-- The first so many bytes; a character that they end inside is kept. -/
def takeBytes : Nat → List Char → List Char
  | _, [] => []
  | 0, _ :: _ => []
  | n + 1, c :: rest => c :: takeBytes (n + 1 - c.utf8Size) rest

end RuleTemplate.Text
