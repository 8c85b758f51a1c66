import RuleTemplate.Resolution.Journal
import RuleTemplate.Store

/-!
Computations that resolve: they read and change the state of a resolution, call probes and
may fail. The state survives a failure. Probes are machines: a call takes the state `σ` of
all probes to a value and a new state.
-/
namespace RuleTemplate

structure State (σ : Type) where
  /-- Levels of indirection that are open. -/
  depth : Nat := 0
  lastAddress : String := ""
  metrics : Metrics := {}
  /-- The steps so far, the latest first. -/
  journal : List Event := []
  probes : σ

structure Setting (σ : Type) where
  store : Store
  options : Options
  invoke : Probe → Record → σ → Value × σ

def Setting.root {σ : Type} (setting : Setting σ) : Value := setting.store.toValue

/-- A step of resolving, with a result or a failure, and the state it leaves. -/
def Resolution (σ α : Type) : Type := State σ → Except DepthExceeded α × State σ

namespace State

variable {σ : Type}

def enter (s : State σ) : State σ :=
  { s with
    depth := s.depth + 1
    metrics := { s.metrics with maxDepth := max s.metrics.maxDepth (s.depth + 1) } }

def leave (s : State σ) : State σ := { s with depth := s.depth - 1 }

@[simp] theorem enter_depth (s : State σ) : s.enter.depth = s.depth + 1 := rfl

@[simp] theorem enter_maxDepth (s : State σ) :
    s.enter.metrics.maxDepth = max s.metrics.maxDepth (s.depth + 1) := rfl

@[simp] theorem leave_depth (s : State σ) : s.leave.depth = s.depth - 1 := rfl

@[simp] theorem leave_metrics (s : State σ) : s.leave.metrics = s.metrics := rfl

def note (s : State σ) (event : Event) : State σ := { s with journal := event :: s.journal }

def count (s : State σ) (change : Metrics → Metrics) : State σ :=
  { s with metrics := change s.metrics }

end State

namespace Resolution

variable {σ α β : Type}

protected def pure (a : α) : Resolution σ α := fun s => (.ok a, s)

protected def bind (m : Resolution σ α) (f : α → Resolution σ β) : Resolution σ β := fun s =>
  match m s with
  | (.ok a, s) => f a s
  | (.error e, s) => (.error e, s)

instance : Monad (Resolution σ) where
  pure := Resolution.pure
  bind := Resolution.bind

theorem pure_apply (a : α) (s : State σ) : (pure a : Resolution σ α) s = (.ok a, s) := rfl

theorem bind_apply (m : Resolution σ α) (f : α → Resolution σ β) (s : State σ) :
    (m >>= f) s = match m s with
      | (.ok a, s) => f a s
      | (.error e, s) => (.error e, s) := rfl

instance : LawfulMonad (Resolution σ) := LawfulMonad.mk' _
  (fun m => by
    funext s
    show (match m s with | (.ok a, s) => (.ok a, s) | (.error e, s) => (.error e, s)) = m s
    rcases m s with ⟨_ | _, _⟩ <;> rfl)
  (fun _ _ => rfl)
  (fun m f g => by
    funext s
    simp only [bind_apply]
    rcases m s with ⟨_ | _, _⟩ <;> rfl)

theorem bind_of_ok {m : Resolution σ α} {s t : State σ} {a : α} (h : m s = (.ok a, t))
    (f : α → Resolution σ β) : (m >>= f) s = f a t := by
  rw [bind_apply, h]

theorem bind_of_error {m : Resolution σ α} {s t : State σ} {e : DepthExceeded}
    (h : m s = (.error e, t)) (f : α → Resolution σ β) : (m >>= f) s = (.error e, t) := by
  rw [bind_apply, h]

theorem bind_eq_ok {m : Resolution σ α} {f : α → Resolution σ β} {s t : State σ} {b : β}
    (h : (m >>= f) s = (.ok b, t)) : ∃ a u, m s = (.ok a, u) ∧ f a u = (.ok b, t) := by
  rw [bind_apply] at h
  split at h
  · next a u hm => exact ⟨a, u, hm, h⟩
  · simp at h

theorem exists_of_isOk {m : Resolution σ α} {s : State σ} (h : (m s).1.isOk = true) :
    ∃ a, m s = (.ok a, (m s).2) := by
  cases hresult : (m s).1 with
  | ok a => exact ⟨a, Prod.ext hresult rfl⟩
  | error e => simp [hresult, Except.isOk, Except.toBool] at h

def update (change : State σ → State σ) : Resolution σ Unit := fun s => (.ok (), change s)

def note (event : Event) : Resolution σ Unit := update (·.note event)

def count (change : Metrics → Metrics) : Resolution σ Unit := update (·.count change)

def refuse (limit : Nat) : Resolution σ α := fun s =>
  (.error ⟨limit, s.lastAddress⟩, s.note (.refused limit s.lastAddress))

/-- Runs one level deeper and comes back, also from a failure. -/
def nested (m : Resolution σ α) : Resolution σ α := fun s =>
  let (result, s) := m s.enter
  (result, s.leave)

theorem nested_apply (m : Resolution σ α) (s : State σ) :
    nested m s = ((m s.enter).1, (m s.enter).2.leave) := rfl

theorem nested_of_eq {m : Resolution σ α} {s t : State σ} {result : Except DepthExceeded α}
    (h : m s.enter = (result, t)) : nested m s = (result, t.leave) := by
  rw [nested_apply, h]

theorem nested_eq {m : Resolution σ α} {s t : State σ} {result : Except DepthExceeded α}
    (h : nested m s = (result, t)) : ∃ u, m s.enter = (result, u) ∧ t = u.leave := by
  rw [nested_apply, Prod.mk.injEq] at h
  exact ⟨(m s.enter).2, Prod.ext h.1 rfl, h.2.symm⟩

def call (setting : Setting σ) (cause : Cause) (probe : Probe) (args : Record) :
    Resolution σ Value := fun s =>
  let (value, probes) := setting.invoke probe args s.probes
  (.ok value,
    { s with
      metrics := { s.metrics with probeCalls := s.metrics.probeCalls + 1 }
      journal := .invoked cause probe args :: s.journal
      probes := probes })

def noteLookup (address : String) (found : Bool) : Resolution σ Unit := fun s =>
  (.ok (),
    { s with
      lastAddress := address
      metrics := { s.metrics with lookups := s.metrics.lookups + 1 }
      journal := .lookedUp address found :: s.journal })

end Resolution
end RuleTemplate
