import RuleTemplate.Json.Writer
import RuleTemplate.Value.Document

/-!
Memoized probes: a probe whose results are kept by the text of its argument records, where the
probes in a record do not count. Only the first call with a record reaches the inner probe.
-/
namespace RuleTemplate

abbrev Cache := Entries Value

namespace Cache

def key (args : Record) : String := (Value.object args).toJson.compact

end Cache

section

variable {σ : Type}

/-- A probe that asks `inner` only where it has no result yet. Its cache is a part of the state,
which `inner` may change before the result is kept. -/
def memoizeIn (cache : σ → Cache) (setCache : Cache → σ → σ) (inner : Record → σ → Value × σ)
    (args : Record) (state : σ) : Value × σ :=
  match (cache state).get? (Cache.key args) with
  | some kept => (kept, state)
  | none =>
    let (value, rest) := inner args state
    (value, setCache ((cache rest).insert (Cache.key args) value) rest)

/-- The same where the cache is out of the reach of `inner`. -/
def memoize (inner : Record → σ → Value × σ) : Record → Cache × σ → Value × (Cache × σ) :=
  memoizeIn Prod.fst (fun cache state => (cache, state.2)) fun args state =>
    let (value, rest) := inner args state.2
    (value, (state.1, rest))

variable {cache : σ → Cache} {setCache : Cache → σ → σ} {inner : Record → σ → Value × σ}
  {args : Record} {state : σ}

theorem memoizeIn_of_get? {kept : Value} (h : (cache state).get? (Cache.key args) = some kept) :
    memoizeIn cache setCache inner args state = (kept, state) := by
  simp only [memoizeIn, h]

theorem memoizeIn_of_get?_eq_none (h : (cache state).get? (Cache.key args) = none) :
    memoizeIn cache setCache inner args state = ((inner args state).1,
      setCache ((cache (inner args state).2).insert (Cache.key args) (inner args state).1)
        (inner args state).2) := by
  simp only [memoizeIn, h]

end

end RuleTemplate
