import RuleTemplate.Entries
import RuleTemplate.Number

/-!
JSON documents, with the members of an object in order.
-/
namespace RuleTemplate

inductive Json
  | null
  | bool (b : Bool)
  | number (n : Number)
  | string (s : String)
  | array (items : List Json)
  | object (members : List (String × Json))

end RuleTemplate
