import RuleTemplate.Address
import RuleTemplate.Matcher
import RuleTemplate.Resolution.Basic
import RuleTemplate.Resolution.Selection

/-!
Resolving one value, given how to resolve a value one level deeper. Lists and plain
objects are walked on the same level; only an address that is found, and the outcome of a
rule that is not a literal, lead deeper.
-/
namespace RuleTemplate.Resolution

variable {σ : Type} (setting : Setting σ) (descend : Value → Resolution σ Value)

def access (address : String) : Resolution σ (Option Value) := do
  let found := Address.lookup setting.root address
  noteLookup address found.isSome
  found.mapM descend

variable {setting descend} in
/-- Looking up an address where something stands goes one level deeper. -/
theorem access_of_lookup {address : String} {v : Value}
    (h : Address.lookup setting.root address = some v) (s : State σ) :
    access setting descend address s = (some <$> descend v) (noteLookup address true s).2 := by
  unfold access
  rw [h]
  rfl

/-- The value of an argument: that at an address, null if there is none, and any other
text itself. -/
def argument (text : String) : Resolution σ Value :=
  if hasSigil text then do return (← access setting descend text).getD .null
  else return .string text

/-- Binds argument names. A name bound twice keeps its first place and its last value. -/
def bindArgs : List (String × String) → Record → Resolution σ Record
  | [], bound => pure bound
  | (name, text) :: rest, bound => do
    let value ← argument setting descend text
    bindArgs rest (Entries.insert name value bound)

def targetProbe (target name : String) : Option Probe := do
  let found ← Address.lookup setting.root target
  let named ← Address.lookup found name
  named.probe?

def extract (spec : CallSpec) (returned : Value) : Option Value :=
  (Address.lookup returned spec.property).filter fun v => !v.isNull && v.passes spec.matcher

def callLocated (target : String) (spec : CallSpec) :
    Option Probe → Resolution σ (Option Value)
  | none => return none
  | some probe => do
    let args ← bindArgs setting descend spec.args []
    let returned ← call setting (.clause target spec) probe args
    let captured := extract spec returned
    note (.compared target spec captured)
    return captured

def callClause (target : String) (spec : CallSpec) : Resolution σ (Option Value) := do
  let probe? := targetProbe setting target spec.name
  note (.located target spec.name probe?)
  callLocated setting descend target spec probe?

def capture : Clause → Resolution σ (Option Value)
  | .bare address => do
    return (← access setting descend address).filter (!·.isNull)
  | .oneOf address alternatives => do
    return (← access setting descend address).filter fun v =>
      !v.isNull && v.isOneOf alternatives
  | .call target spec => callClause setting descend target spec
  | .malformed target signature => do
    note (.malformed target signature)
    return none

/-- Evaluates a group from its first clause that has not been evaluated yet, after `parts`
clauses that held. The first clause that fails or is a bare address ends the group. -/
def judgeFrom (parts : Nat) (captured : Value) : Criterion → Resolution σ Verdict
  | [] => return if parts = 0 then .failed else .matched parts captured
  | clause :: rest => do
    note (.reached clause)
    match ← capture setting descend clause with
    | none => return .failed
    | some v =>
      if clause.isBare then return .tentative v else judgeFrom (parts + 1) v rest

def judge (criterion : Criterion) : Resolution σ Verdict :=
  judgeFrom setting descend 0 .null criterion

def countVerdict (metrics : Metrics) : Verdict → Metrics
  | .matched _ _ => { metrics with matched := metrics.matched + 1 }
  | _ => metrics

def select : List Branch → Selection → Resolution σ Selection
  | [], selection => pure selection
  | branch :: rest, selection => do
    count fun m => { m with criteria := m.criteria + 1 }
    let verdict ← judge setting descend branch.criterion
    count (countVerdict · verdict)
    note (selection.event branch.key verdict)
    select rest (selection.consider branch verdict)

def seed : Value → Resolution σ Value
  | .probe p => call setting .fallback p [("contexts", setting.root)]
  | v => pure v

def settle : Option Value → Resolution σ Value
  | none => return .null
  | some v =>
    if setting.options.collapseFalsy && !v.isTruthy then return .null
    else if v.isLiteral then return v
    else descend v

def resolveRule (rule : Rule) : Resolution σ Value := do
  count fun m => { m with rules := m.rules + 1 }
  note (.opened rule.fallback)
  let fallback ← rule.fallback.mapM (seed setting)
  let selection ← select setting descend rule.branches (.start fallback)
  settle setting descend selection.chosen

def visit : Resolution σ Unit := count fun m => { m with nodes := m.nodes + 1 }

mutual

def walk : Value → Resolution σ Value
  | .string s => do
    visit
    if hasSigil s then return (← access setting descend s).getD .null else return .string s
  | .array items => do
    visit
    return .array (← walkItems items)
  | .object members => do
    visit
    if isRule members then resolveRule setting descend (.ofMembers members)
    else return .object (← walkMembers members)
  | v => do
    visit
    return v
termination_by structural v => v

def walkItems : List Value → Resolution σ (List Value)
  | [] => return []
  | item :: rest => do
    let resolved ← walk item
    return resolved :: (← walkItems rest)
termination_by structural items => items

def walkMembers : List (String × Value) → Resolution σ (List (String × Value))
  | [] => return []
  | (key, value) :: rest => do
    let resolved ← walk value
    return (key, resolved) :: (← walkMembers rest)
termination_by structural members => members

end

/-- What a value means to resolution says how it is resolved. -/
theorem walk_eq (v : Value) :
    walk setting descend v = (do
      visit
      match Node.ofValue v with
      | .literal w => return w
      | .address a => return (← access setting descend a).getD .null
      | .list items => return .array (← walkItems setting descend items)
      | .object members => return .object (← walkMembers setting descend members)
      | .rule r => resolveRule setting descend r) := by
  cases v with
  | string s => by_cases h : hasSigil s <;> simp [walk, Node.ofValue, h]
  | object members => by_cases h : isRule members = true <;> simp [walk, Node.ofValue, h]
  | _ => simp [walk, Node.ofValue]

variable {setting descend}

/-- A literal is visited and stays as it is. -/
theorem walk_of_isLiteral {v : Value} (hv : v.isLiteral = true) :
    walk setting descend v = visit >>= fun _ => pure v := by
  rw [walk_eq, Node.ofValue_eq_literal_iff.mpr ⟨hv, rfl⟩]

/-- An address where something stands leads one level deeper. -/
theorem walk_of_lookup {address : String} {v : Value} (hsigil : hasSigil address = true)
    (h : Address.lookup setting.root address = some v) :
    walk setting descend (.string address) = (do
      visit
      noteLookup address true
      descend v) := by
  rw [walk, if_pos hsigil, access, h]
  simp

/-- An address where nothing stands is null. -/
theorem walk_of_lookup_none {address : String} (hsigil : hasSigil address = true)
    (h : Address.lookup setting.root address = none) :
    walk setting descend (.string address) = (do
      visit
      noteLookup address false
      return .null) := by
  rw [walk, if_pos hsigil, access, h]
  simp

end RuleTemplate.Resolution
