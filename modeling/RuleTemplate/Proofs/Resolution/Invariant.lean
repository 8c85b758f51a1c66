import RuleTemplate.Proofs.Resolution.Alignment

/-!
Properties of resolutions that hold of whole runs because they hold of every step. Such a
property is a relation that looks at one side only, so what is known of aligned settings
gives it for values, addresses and templates.
-/
namespace RuleTemplate.Resolution

variable {σ : Type}

/-- A property of resolutions with results of one type, with what holds of the results. -/
abbrev Property (σ : Type) : Type 1 := ∀ ⦃α : Type⦄, (α → Prop) → Resolution σ α → Prop

/-- A property of every step of a resolution in the setting: of what it is put together
from, of a refusal, and of whatever runs one level deeper. -/
structure Invariant (S : Setting σ) (raw done : Value → Prop) (P : Property σ) : Prop where
  aligned : Aligned S S raw done fun _ Φ m _ => P Φ m
  refuse : P done (refuse S.options.maxDepth)
  nested : ∀ m, P done m → P done (nested m)
  finish : P (fun _ => True) (update fun s => s.note (.finished s.metrics))

namespace Invariant

variable {S : Setting σ} {raw done : Value → Prop} {P : Property σ}

theorem mono (h : Invariant S raw done P) {α : Type} {Φ Ψ : α → Prop} {m : Resolution σ α}
    (hm : P Φ m) (hΦ : ∀ a, Φ a → Ψ a) : P Ψ m :=
  h.aligned.mono (n := m) hm hΦ

theorem lockstep (h : Invariant S raw done P) :
    Lockstep S S raw done fun _ Φ m _ => P Φ m where
  aligned := h.aligned
  limit := rfl
  refuse := h.refuse
  nested m _ hm := h.nested m hm
  finish := h.finish

theorem resolveWithin (h : Invariant S raw done P) (levels : Nat) (v : Value) (hv : raw v) :
    P done (Resolution.resolveWithin S levels v) := h.lockstep.resolveWithin levels v hv

theorem resolveValue (h : Invariant S raw done P) (v : Value) (hv : raw v) :
    P done (Resolution.resolveValue S v) := h.resolveWithin _ v hv

theorem resolveAddress (h : Invariant S raw done P) (address : String) :
    P (fun found => ∀ v ∈ found, done v) (Resolution.resolveAddress S address) :=
  h.lockstep.resolveAddress address

theorem resolveTemplate (h : Invariant S raw done P) (template : Record)
    (htemplate : ∀ property ∈ template, raw property.2) :
    P (fun out => Entries.keys out = Entries.keys template ∧
        ∀ property ∈ out, done property.2)
      (Resolution.resolveTemplate S template) :=
  h.lockstep.resolveTemplate template htemplate

end Invariant
end RuleTemplate.Resolution
