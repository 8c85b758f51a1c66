import RuleTemplate.Resolution.Rules

/-!
Resolution with a limit on the levels of indirection that may be open at once, of values,
of addresses and of whole templates. Recursion is on the levels left and, on one level, on
the value, so it always ends.
-/
namespace RuleTemplate.Resolution

variable {σ : Type} (setting : Setting σ)

/-- Resolves a value where so many more levels may be opened. -/
def resolveWithin : Nat → Value → Resolution σ Value
  | 0 => walk setting fun _ => refuse setting.options.maxDepth
  | levels + 1 => walk setting fun v => nested (resolveWithin levels v)

def descendWithin : Nat → Value → Resolution σ Value
  | 0 => fun _ => refuse setting.options.maxDepth
  | levels + 1 => fun v => nested (resolveWithin setting levels v)

theorem resolveWithin_eq (levels : Nat) :
    resolveWithin setting levels = walk setting (descendWithin setting levels) := by
  cases levels <;> rfl

def resolveValue (v : Value) : Resolution σ Value :=
  resolveWithin setting setting.options.maxDepth v

def resolveAddress (address : String) : Resolution σ (Option Value) :=
  access setting (descendWithin setting setting.options.maxDepth) address

/-- Resolves a property of a template. A probe is behaviour and stays as it is. -/
def resolveProperty (key : String) (value : Value) : Resolution σ Value := do
  note (.property key)
  if value.isProbe then return value else resolveValue setting value

def resolveProperties : Record → Resolution σ Record
  | [] => return []
  | (key, value) :: rest => do
    let resolved ← resolveProperty setting key value
    return (key, resolved) :: (← resolveProperties rest)

def resolveTemplate (template : Record) : Resolution σ Record := do
  let resolved ← resolveProperties setting template
  update fun s => s.note (.finished s.metrics)
  return resolved

end RuleTemplate.Resolution
