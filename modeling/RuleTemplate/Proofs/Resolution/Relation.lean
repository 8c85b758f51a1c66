import RuleTemplate.Proofs.Resolution.Tally

/-!
Relations between resolutions that are closed under the ways in which resolutions are put
together. Such a relation may ignore one side and be a property, such as that whatever is
returned has a property.
-/
namespace RuleTemplate

def Event.isCue : Event → Bool
  | .opened _ | .reached (.call _ _) | .located _ _ _ | .compared _ _ _ => true
  | _ => false

/-- A step that reports what was found. It meets neither the store nor a probe, and nothing
has to come before it or after it. -/
def Event.isRemark : Event → Bool
  | .reached (.call _ _) => false
  | .property _ | .reached _ | .malformed _ _ => true
  | .outranked _ _ _ | .selected _ _ | .supplied _ | .failed _ => true
  | _ => false

theorem Selection.isRemark_event (selection : Selection) (key : String) (verdict : Verdict) :
    (selection.event key verdict).isRemark = true := by
  cases verdict with
  | matched parts captured =>
    simp only [Selection.event]
    split <;> rfl
  | _ => rfl

namespace Resolution

variable {σ τ α β : Type}

def Returns (Φ : α → Prop) (m : Resolution σ α) : Prop :=
  ∀ s a t, m s = (.ok a, t) → Φ a

theorem Returns.bind {Φ : α → Prop} {Ψ : β → Prop} {m : Resolution σ α}
    {f : α → Resolution σ β} (hm : Returns Φ m) (hf : ∀ a, Φ a → Returns Ψ (f a)) :
    Returns Ψ (m >>= f) := by
  intro s b t hrun
  obtain ⟨a, u, hfirst, hsecond⟩ := bind_eq_ok hrun
  exact hf a (hm s a u hfirst) u b t hsecond

theorem returns_pure {Φ : α → Prop} {a : α} (ha : Φ a) :
    Returns Φ (pure a : Resolution σ α) := by
  intro s b t hrun
  rw [pure_apply, Prod.mk.injEq, Except.ok.injEq] at hrun
  exact hrun.1 ▸ ha

theorem returns_trivial (m : Resolution σ α) : Returns (fun _ => True) m :=
  fun _ _ _ _ => trivial

/-- What comes before may return anything. -/
theorem Returns.after {Ψ : β → Prop} {m : Resolution σ α} {f : α → Resolution σ β}
    (hf : ∀ a, Returns Ψ (f a)) : Returns Ψ (m >>= f) :=
  (returns_trivial m).bind fun a _ => hf a

theorem Returns.mono {Φ Ψ : α → Prop} {m : Resolution σ α} (hm : Returns Φ m)
    (h : ∀ a, Φ a → Ψ a) : Returns Ψ m := by
  intro s a t hrun
  have ha := hm s a t hrun
  exact h a ha

/-- A relation between resolutions with results of one type. That `m` and `n` are related
at `Φ` is to imply that they return the same, and that `Φ` holds of it. -/
abbrev Relation (σ τ : Type) : Type 1 :=
  ∀ ⦃α : Type⦄, (α → Prop) → Resolution σ α → Resolution τ α → Prop

/-- A relation that is closed under the ways in which resolutions are put together. -/
structure Congruence (R : Relation σ τ) : Prop where
  pure : ∀ {α : Type} {Φ : α → Prop} {a : α}, Φ a → R Φ (pure a) (pure a)
  bind : ∀ {α β : Type} {Φ : α → Prop} {Ψ : β → Prop} {m : Resolution σ α}
    {n : Resolution τ α} {f : α → Resolution σ β} {f' : α → Resolution τ β},
    R Φ m n → (∀ a, Φ a → R Ψ (f a) (f' a)) → R Ψ (m >>= f) (n >>= f')
  note : ∀ event : Event, event.isRemark = true → R (fun _ => True) (note event) (note event)
  count : ∀ change : Metrics → Metrics, Metrics.IsTally change →
    R (fun _ => True) (count change) (count change)

namespace Congruence

variable {R : Relation σ τ}

theorem mono (h : Congruence R) {Φ Ψ : α → Prop} {m : Resolution σ α} {n : Resolution τ α}
    (hm : R Φ m n) (hΦ : ∀ a, Φ a → Ψ a) : R Ψ m n := by
  have hpure := h.bind hm fun a ha => h.pure (hΦ a ha)
  simpa only [bind_pure] using hpure

theorem map (h : Congruence R) {Φ : α → Prop} {Ψ : β → Prop} {m : Resolution σ α}
    {n : Resolution τ α} {g : α → β} (hm : R Φ m n) (hg : ∀ a, Φ a → Ψ (g a)) :
    R Ψ (g <$> m) (g <$> n) := by
  rw [map_eq_pure_bind, map_eq_pure_bind]
  exact h.bind hm fun a ha => h.pure (hg a ha)

theorem remark (h : Congruence R) {Φ : α → Prop} {m : Resolution σ α} {n : Resolution τ α}
    {event : Event} (hevent : event.isRemark = true) (hm : R Φ m n) :
    R Φ (Resolution.note event >>= fun _ => m) (Resolution.note event >>= fun _ => n) :=
  h.bind (h.note event hevent) fun _ _ => hm

/-- Related resolutions of all elements make the walks of a list related. -/
theorem mapM (h : Congruence R) {ι : Type} {f : ι → Resolution σ β} {g : ι → Resolution τ β}
    {xs : List ι} (hf : ∀ x ∈ xs, R (fun _ => True) (f x) (g x)) :
    R (fun _ => True) (xs.mapM f) (xs.mapM g) := by
  induction xs with
  | nil => exact h.pure trivial
  | cons x rest ih =>
    rw [List.mapM_cons, List.mapM_cons]
    refine h.bind (hf x List.mem_cons_self) fun b _ => ?_
    refine h.bind (ih fun y hy => hf y (List.mem_cons_of_mem _ hy)) fun bs _ => ?_
    exact h.pure trivial

/-- Related resolutions of one element, among others that are resolved alike, make the walks of
the two lists related. -/
theorem mapM_around (h : Congruence R) {ι : Type} {f : ι → Resolution σ β} {g : ι → Resolution τ β}
    (hf : ∀ x, R (fun _ => True) (f x) (g x)) {x y : ι} (hxy : R (fun _ => True) (f x) (g y))
    (before after : List ι) :
    R (fun _ => True) ((before ++ x :: after).mapM f) ((before ++ y :: after).mapM g) := by
  have hrest : R (fun _ => True) ((x :: after).mapM f) ((y :: after).mapM g) := by
    rw [List.mapM_cons, List.mapM_cons]
    exact h.bind hxy fun _ _ => h.bind (h.mapM fun z _ => hf z) fun _ _ => h.pure trivial
  rw [List.mapM_append, List.mapM_append]
  exact h.bind (h.mapM fun z _ => hf z) fun _ _ => h.bind hrest fun _ _ => h.pure trivial

theorem visit (h : Congruence R) : R (fun _ => True) Resolution.visit Resolution.visit :=
  h.count _ Metrics.isTally_node

end Congruence

end Resolution
end RuleTemplate
