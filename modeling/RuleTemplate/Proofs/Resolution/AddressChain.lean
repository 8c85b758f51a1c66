import RuleTemplate.Resolution.Run

/-!
Addresses that lead to one another. Each hop takes one level, and so does the literal at the end,
so a chain resolves as soon as there are levels for all of them; otherwise the failure names the
address from which no level was left. An address at which nothing stands takes no level. It comes
to nothing where it is asked for itself, and to null where another address has led to it.
-/
namespace RuleTemplate.Resolution

variable {σ α β : Type} {S : Setting σ} {f : Nat → String}

/-- Every address before the last one leads to the next: this is what stands there. -/
structure Chain (S : Setting σ) (f : Nat → String) (last : Nat) : Prop where
  sigil : ∀ i ≤ last, hasSigil (f i) = true
  leads : ∀ i < last, Address.lookup S.root (f i) = some (.string (f (i + 1)))

theorem Chain.tail {last : Nat} (h : Chain S f (last + 1)) :
    Chain S (fun i => f (i + 1)) last where
  sigil i hi := h.sigil (i + 1) (by omega)
  leads i hi := h.leads (i + 1) (by omega)

theorem Chain.init {last : Nat} (h : Chain S f last) {k : Nat} (hk : k ≤ last) : Chain S f k where
  sigil i hi := h.sigil i (by omega)
  leads i hi := h.leads i (by omega)

/-- A chain that comes back to where it began can be followed forever. -/
theorem Chain.endless {period : Nat} (h : Chain S f period) (hperiod : 0 < period)
    (hcycle : f period = f 0) (last : Nat) : Chain S (fun i => f (i % period)) last := by
  constructor
  · intro i _
    have hi : i % period < period := Nat.mod_lt i hperiod
    exact h.sigil (i % period) (by omega)
  · intro i _
    have hi : i % period < period := Nat.mod_lt i hperiod
    have hstep := h.leads (i % period) hi
    by_cases hlast : i % period + 1 = period
    · have hnext : (i + 1) % period = 0 := by
        rw [Nat.add_mod_eq_add_mod_right 1 (Nat.mod_mod i period).symm, hlast, Nat.mod_self]
      rw [hstep, hlast, hcycle, hnext]
    · have hnext : (i + 1) % period = i % period + 1 := by
        rw [Nat.add_mod_eq_add_mod_right 1 (Nat.mod_mod i period).symm]
        exact Nat.mod_eq_of_lt (by omega)
      rw [hstep, hnext]

theorem map_fst (g : α → β) (m : Resolution σ α) (s : State σ) :
    ((g <$> m) s).1 = (m s).1.map g := by
  rw [map_eq_pure_bind, bind_apply]
  rcases m s with ⟨result, t⟩
  cases result <;> rfl

/-- A text with the sigil comes to what stands at the address. -/
theorem walk_address {a : String} (ha : hasSigil a = true) (d : Value → Resolution σ Value)
    (s : State σ) :
    (walk S d (.string a) s).1 = (access S d a (visit s).2).1.map (·.getD .null) := by
  have hwalk : walk S d (.string a) = visit >>= fun _ => (·.getD .null) <$> access S d a := by
    rw [walk, ha, if_pos rfl, map_eq_pure_bind]
  have hvisit : visit s = (.ok (), (visit s).2) := rfl
  rw [hwalk, bind_of_ok hvisit, map_fst]

theorem descendWithin_succ (levels : Nat) (v : Value) (s : State σ) :
    (descendWithin S (levels + 1) v s).1 = (walk S (descendWithin S levels) v s.enter).1 := by
  rw [← resolveWithin_eq]
  rfl

theorem access_of_lookup_none {a : String} (h : Address.lookup S.root a = none)
    (d : Value → Resolution σ Value) (s : State σ) : (access S d a s).1 = .ok none := by
  unfold access
  rw [h]
  rfl

/-- A literal takes one level. -/
theorem access_of_isLiteral {a : String} {v : Value} (h : Address.lookup S.root a = some v)
    (hv : v.isLiteral = true) (levels : Nat) (s : State σ) :
    (access S (descendWithin S (levels + 1)) a s).1 = .ok (some v) := by
  rw [access_of_lookup h, map_fst, descendWithin_succ, walk_of_isLiteral hv]
  rfl

/-- Without a level left, whatever stands at the address is refused. -/
theorem access_refused {a : String} {v : Value} (h : Address.lookup S.root a = some v)
    (s : State σ) :
    (access S (descendWithin S 0) a s).1 = .error ⟨S.options.maxDepth, a⟩ := by
  rw [access_of_lookup h, map_fst, descendWithin]
  rfl

/-- One hop: an address that leads to another one comes to what that one comes to, with one level
less. -/
theorem access_hop {a b : String} (h : Address.lookup S.root a = some (.string b))
    (hb : hasSigil b = true) (levels : Nat) (s : State σ) :
    ∃ t, (access S (descendWithin S (levels + 1)) a s).1 =
      (access S (descendWithin S levels) b t).1.map fun found => some (found.getD .null) := by
  refine ⟨(visit (noteLookup a true s).2.enter).2, ?_⟩
  rw [access_of_lookup h, map_fst, descendWithin_succ, walk_address hb]
  cases (access S (descendWithin S levels) b _).1 <;> rfl

/-- Where the hops use up the levels and something stands at the next address, the failure names
that address. The induction is on the levels; each hop drops the first address of the chain. -/
theorem access_refused_of_chain {levels : Nat} {v : Value} (h : Chain S f levels)
    (hv : Address.lookup S.root (f levels) = some v) (s : State σ) :
    (access S (descendWithin S levels) (f 0) s).1 = .error ⟨S.options.maxDepth, f levels⟩ := by
  induction levels generalizing f s with
  | zero => exact access_refused hv s
  | succ levels ih =>
    obtain ⟨t, hhop⟩ := access_hop (h.leads 0 (by omega)) (h.sigil 1 (by omega)) levels s
    rw [hhop, ih h.tail hv t]
    rfl

/-- The first address comes to what the last one comes to with the levels that the hops leave. Only
the last address itself can come to nothing. The induction is on the hops. -/
theorem access_of_chain {last levels : Nat} {found : Option Value} (h : Chain S f last)
    (hlast : ∀ s, (access S (descendWithin S levels) (f last) s).1 = .ok found) (s : State σ) :
    (access S (descendWithin S (levels + last)) (f 0) s).1 =
      .ok (if last = 0 then found else some (found.getD .null)) := by
  induction last generalizing f s with
  | zero => exact hlast s
  | succ last ih =>
    obtain ⟨t, hhop⟩ := access_hop (h.leads 0 (by omega)) (h.sigil 1 (by omega)) (levels + last) s
    have hrest := ih h.tail hlast t
    rw [← Nat.add_assoc, hhop, hrest]
    cases last <;> rfl

/-- From every state the address comes to this, and the text of the address to the same value, or
to null if this is nothing. -/
def ComesTo (S : Setting σ) (a : String) (result : Except DepthExceeded (Option Value)) : Prop :=
  ∀ s, (resolveAddress S a s).1 = result ∧
    (resolveValue S (.string a) s).1 = result.map (·.getD .null)

theorem comesTo_of_access {a : String} (ha : hasSigil a = true)
    {result : Except DepthExceeded (Option Value)}
    (h : ∀ s, (access S (descendWithin S S.options.maxDepth) a s).1 = result) :
    ComesTo S a result := by
  intro s
  constructor
  · exact h s
  · rw [resolveValue, resolveWithin_eq, walk_address ha, h]

theorem comesTo_refused {v : Value} (h : Chain S f S.options.maxDepth)
    (hv : Address.lookup S.root (f S.options.maxDepth) = some v) :
    ComesTo S (f 0) (.error ⟨S.options.maxDepth, f S.options.maxDepth⟩) :=
  comesTo_of_access (h.sigil 0 (by omega)) (access_refused_of_chain h hv)

/-- What stands at an address before the last one is the next address. -/
theorem Chain.refused {last : Nat} (h : Chain S f last) (hlast : S.options.maxDepth < last) :
    ComesTo S (f 0) (.error ⟨S.options.maxDepth, f S.options.maxDepth⟩) :=
  comesTo_refused (h.init (by omega)) (h.leads _ hlast)

theorem Chain.comesTo {last : Nat} {found : Option Value} (h : Chain S f last) (levels : Nat)
    (hlevels : S.options.maxDepth = levels + last)
    (hlast : ∀ s, (access S (descendWithin S levels) (f last) s).1 = .ok found) :
    ComesTo S (f 0) (.ok (if last = 0 then found else some (found.getD .null))) := by
  refine comesTo_of_access (h.sigil 0 (by omega)) ?_
  rw [hlevels]
  exact access_of_chain h hlast

/-- Chains of addresses need exactly their length, whatever the state is from which the first
address is resolved. An endless chain, and so every cycle, fails at every limit, and the failure
names the address as far into the chain as the limit says. A chain of `last` hops that ends at a
literal needs one level more than its hops, a chain that ends where nothing stands needs none for
its end; with fewer levels the failure names the same address. The last address comes to nothing
only if nothing has led to it. -/
theorem resolveAddress_chain (S : Setting σ) (f : Nat → String) :
    ((∀ last, Chain S f last) →
      ComesTo S (f 0) (.error ⟨S.options.maxDepth, f S.options.maxDepth⟩)) ∧
    (∀ period, 0 < period → Chain S f period → f period = f 0 →
      ComesTo S (f 0) (.error ⟨S.options.maxDepth, f (S.options.maxDepth % period)⟩)) ∧
    (∀ last v, Chain S f last → Address.lookup S.root (f last) = some v → v.isLiteral = true →
      ComesTo S (f 0)
        (if last + 1 ≤ S.options.maxDepth then .ok (some v)
          else .error ⟨S.options.maxDepth, f S.options.maxDepth⟩)) ∧
    (∀ last, Chain S f last → Address.lookup S.root (f last) = none →
      ComesTo S (f 0)
        (if last ≤ S.options.maxDepth then .ok (if last = 0 then none else some .null)
          else .error ⟨S.options.maxDepth, f S.options.maxDepth⟩)) := by
  refine ⟨fun h => ?_, fun period hperiod h hcycle => ?_, fun last v h hv hliteral => ?_,
    fun last h hnone => ?_⟩
  · exact (h (S.options.maxDepth + 1)).refused (by omega)
  · have hrefused := (h.endless hperiod hcycle (S.options.maxDepth + 1)).refused (by omega)
    simpa only [Nat.zero_mod] using hrefused
  · by_cases hfit : last + 1 ≤ S.options.maxDepth
    · rw [if_pos hfit]
      have hcomes := h.comesTo (S.options.maxDepth - (last + 1) + 1) (by omega)
        (access_of_isLiteral hv hliteral _)
      simpa using hcomes
    · rw [if_neg hfit]
      by_cases hlast : S.options.maxDepth = last
      -- The last hop took the last level.
      · exact comesTo_refused (hlast ▸ h) (hlast ▸ hv)
      · exact h.refused (by omega)
  · by_cases hfit : last ≤ S.options.maxDepth
    · rw [if_pos hfit]
      exact h.comesTo (S.options.maxDepth - last) (by omega) (access_of_lookup_none hnone _)
    · rw [if_neg hfit]
      exact h.refused (by omega)

def alternate (a b : String) (i : Nat) : String := if i % 2 = 0 then a else b

theorem hasSigil_alternate {a b : String} (ha : hasSigil a = true) (hb : hasSigil b = true)
    (i : Nat) : hasSigil (alternate a b i) = true := by
  unfold alternate
  split
  · exact ha
  · exact hb

theorem chain_one {a b : String} (ha : hasSigil a = true) (hb : hasSigil b = true)
    (hab : Address.lookup S.root a = some (.string b)) : Chain S (alternate a b) 1 := by
  constructor
  · exact fun i _ => hasSigil_alternate ha hb i
  · intro i hi
    obtain rfl : i = 0 := by omega
    exact hab

/-- Two addresses that lead to one another are a cycle. -/
theorem chain_alternate {a b : String} (ha : hasSigil a = true) (hb : hasSigil b = true)
    (hab : Address.lookup S.root a = some (.string b))
    (hba : Address.lookup S.root b = some (.string a)) (last : Nat) :
    Chain S (alternate a b) last := by
  constructor
  · exact fun i _ => hasSigil_alternate ha hb i
  · intro i _
    unfold alternate
    by_cases heven : i % 2 = 0
    · rw [if_pos heven, if_neg (by omega), hab]
    · rw [if_neg heven, if_pos (by omega), hba]

def hopSetting (limit : Nat) : Setting Unit where
  store := Store.ofRecord [
    ("@a", .object [("x", .string "@b.y"), ("lost", .string "@b.gone"),
      ("loop", .string "@b.loop")]),
    ("@b", .object [("y", .string "deep"), ("loop", .string "@a.loop")])]
  options := { maxDepth := limit }
  invoke := fun _ _ _ => (.null, ())

theorem lost_chain (limit : Nat) :
    Chain (hopSetting limit) (alternate "@a.lost" "@b.gone") 1 ∧
      Address.lookup (hopSetting limit).root "@b.gone" = none :=
  ⟨chain_one rfl rfl rfl, rfl⟩

theorem resolveAddress_chain_hops :
    ComesTo (hopSetting 3) "@a.loop" (.error ⟨3, "@b.loop"⟩) ∧
    ComesTo (hopSetting 4) "@a.loop" (.error ⟨4, "@a.loop"⟩) ∧
    ComesTo (hopSetting 2) "@a.x" (.ok (some (.string "deep"))) ∧
    ComesTo (hopSetting 1) "@a.x" (.error ⟨1, "@b.y"⟩) ∧
    ComesTo (hopSetting 1) "@a.lost" (.ok (some .null)) ∧
    ComesTo (hopSetting 0) "@a.lost" (.error ⟨0, "@a.lost"⟩) ∧
    ComesTo (hopSetting 0) "@b.gone" (.ok none) := by
  have hloop (limit : Nat) := chain_alternate (S := hopSetting limit) (a := "@a.loop")
    (b := "@b.loop") rfl rfl rfl rfl
  have hdeep (limit : Nat) := chain_one (S := hopSetting limit) (a := "@a.x") (b := "@b.y")
    rfl rfl rfl
  obtain ⟨hendless, -⟩ := resolveAddress_chain (hopSetting 3) (alternate "@a.loop" "@b.loop")
  obtain ⟨-, hcycle, -⟩ := resolveAddress_chain (hopSetting 4) (alternate "@a.loop" "@b.loop")
  have hliteral (limit : Nat) :=
    (resolveAddress_chain (hopSetting limit) (alternate "@a.x" "@b.y")).2.2.1 1 (.string "deep")
      (hdeep limit) rfl rfl
  have hlost (limit : Nat) :=
    (resolveAddress_chain (hopSetting limit) (alternate "@a.lost" "@b.gone")).2.2.2 1
      (lost_chain limit).1 (lost_chain limit).2
  have hgone := (resolveAddress_chain (hopSetting 0) (alternate "@b.gone" "@b.gone")).2.2.2 0
    ⟨fun i _ => hasSigil_alternate rfl rfl i, by omega⟩ rfl
  exact ⟨hendless (hloop 3), hcycle 2 (by omega) (hloop 4 2) rfl, hliteral 2, hliteral 1, hlost 1,
    hlost 0, hgone⟩

/-- A chain that ends where nothing stands does not come to nothing: once an address has led to
another one, the result is there, and it is null. -/
theorem not_nothing_of_hop : ¬∀ (S : Setting Unit) (f : Nat → String) (last : Nat) (s : State Unit),
    Chain S f last → Address.lookup S.root (f last) = none → last ≤ S.options.maxDepth →
      (resolveAddress S (f 0) s).1 = .ok none := by
  intro hall
  have hnothing := hall (hopSetting 1) (alternate "@a.lost" "@b.gone") 1 { probes := () }
    (lost_chain 1).1 (lost_chain 1).2 (by decide)
  have hnull : (resolveAddress (hopSetting 1) "@a.lost" { probes := () }).1 = .ok (some .null) :=
    rfl
  rw [show alternate "@a.lost" "@b.gone" 0 = "@a.lost" from rfl, hnull] at hnothing
  simp at hnothing

end RuleTemplate.Resolution
