import RuleTemplate.Value.Basic

/-!
The text form of a value, by which criteria compare: a list is its elements' texts with
commas between them, where a null element leaves nothing.
-/
namespace RuleTemplate.Value

mutual

def display : Value → String
  | null => "null"
  | bool b => if b then "true" else "false"
  | number n => n.display
  | string s => s
  | array items => ",".intercalate (displayItems items)
  | object _ => "[object Object]"
  | probe _ => "<probe>"
termination_by structural v => v

def displayItems : List Value → List String
  | [] => []
  | .null :: rest => "" :: displayItems rest
  | item :: rest => display item :: displayItems rest
termination_by structural items => items

end

def displayItem (item : Value) : String := if item.isNull then "" else item.display

theorem displayItems_eq_map (items : List Value) :
    displayItems items = items.map displayItem := by
  induction items with
  | nil => rfl
  | cons item rest ih => cases item <;> simp [displayItems, displayItem, isNull, ih]

end RuleTemplate.Value
