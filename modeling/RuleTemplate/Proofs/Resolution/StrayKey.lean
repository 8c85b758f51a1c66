import RuleTemplate.Proofs.Resolution.InertKey
import RuleTemplate.Proofs.Resolution.Respelling
import RuleTemplate.Proofs.Store.History

/-!
A key whose first word is no criterion. Every name in a store begins with the sigil, so an address
leads somewhere in some store exactly if it begins with the sigil or is empty, once its brackets
are written as dots and a leading dot is dropped. A clause with an address that does neither, or a
call with a target that does not begin with the sigil, finds nothing in any store, and its key does
not match. If that is the first word of the key, the key takes no part in its rule: the choice goes
on as if the key were not there. What the key leaves behind is a criterion and a look-up in the
counters, and the address that was looked up.
-/
namespace RuleTemplate

namespace Address

abbrev plain (path : String) : List Char := dropDot (dotted false path.toList)

def IsStray (path : String) : Prop := ∃ c ∈ (plain path).head?, c ≠ sigil

def under (v : Value) : List String → Value
  | [] => v
  | name :: rest => .object [(name, under v rest)]

theorem follow_under (v : Value) (path : List String) : follow (under v path) path = some v := by
  induction path with
  | nil => rfl
  | cons name rest ih => simpa [follow_cons, under, step, Entries.get?_cons] using ih

/-- A path that begins with the sigil leads somewhere in some store. -/
theorem exists_store_of_head {path : String} (h : (plain path).head? = some sigil) :
    ∃ store : Store, lookup store.toValue path = some .null := by
  have hne : plain path ≠ [] := fun hnil => by simp [hnil] at h
  obtain ⟨first, rest, hsplit⟩ := List.exists_cons_of_ne_nil
    (List.splitOn_ne_nil '.' (plain path))
  have hjoined : ['.'].intercalate (first :: rest) = plain path :=
    hsplit ▸ List.intercalate_splitOn '.'
  have hfirst : first.head? = some sigil := by
    rw [← hjoined] at h
    cases first with
    | nil => cases rest <;> simp [sigil, List.intercalate_cons_cons] at h
    | cons c others =>
      cases rest <;> simpa [List.intercalate_cons_cons] using h
  have hname : hasSigil (String.ofList first) = true := by simp [hasSigil, hfirst]
  refine ⟨Store.empty.insert (String.ofList first) (under .null (rest.map String.ofList)), ?_⟩
  have hroot : (Store.empty.insert (String.ofList first)
      (under .null (rest.map String.ofList))).toValue =
        under .null ((first :: rest).map String.ofList) := by
    show Value.object (Entries.insert (Store.nameOf (String.ofList first)) _ []) = _
    rw [Store.nameOf_of_hasSigil hname]
    rfl
  rw [lookup, segments, if_neg hne, hsplit, hroot, follow_under]

/-- The stray paths are those that lead nowhere in any store. -/
theorem isStray_iff {path : String} :
    IsStray path ↔ ∀ store : Store, lookup store.toValue path = none := by
  constructor
  · rintro ⟨c, hc, hsigil⟩ store
    rw [Option.eq_none_iff_forall_ne_some]
    intro v hv
    rcases store.address_of_lookup hv with hnil | hhead
    · simp [plain, hnil] at hc
    · exact hsigil (Option.some.inj (hc.symm.trans hhead))
  · intro h
    cases hhead : (plain path).head? with
    | none =>
      have hnil : plain path = [] := List.head?_eq_none_iff.mp hhead
      have hroot := h Store.empty
      rw [lookup, segments, if_pos hnil] at hroot
      simp [follow_nil] at hroot
    | some c =>
      refine ⟨c, hhead, ?_⟩
      rintro rfl
      obtain ⟨store, hfound⟩ := exists_store_of_head hhead
      simp [h store] at hfound

/-- A first character that is neither a dot nor an opening bracket stays where it is. -/
theorem head?_plain {c : Char} {rest : List Char} (hdot : c ≠ '.') (hbracket : c ≠ '[') :
    (plain (String.ofList (c :: rest))).head? = some c := by
  have hdotted : ∃ others, dotted false (c :: rest) = c :: others := by
    rw [dotted, if_neg hbracket]
    split <;> exact ⟨_, rfl⟩
  obtain ⟨others, hothers⟩ := hdotted
  rw [plain, String.toList_ofList, hothers]
  unfold dropDot
  split
  · next heq => exact absurd (List.cons.inj heq).1 hdot
  · rfl

theorem isStray_of_head {c : Char} {rest : List Char} (h : c ∉ [sigil, '.', '[']) :
    IsStray (String.ofList (c :: rest)) := by
  simp only [List.mem_cons, List.not_mem_nil, or_false, not_or] at h
  exact ⟨c, head?_plain h.2.1 h.2.2, h.1⟩

end Address

/-- The clause has an address that is stray, or is a call that has no target in any store. -/
def Clause.IsStray : Clause → Prop
  | .bare address | .oneOf address _ => Address.IsStray address
  | .call target _ => (Address.plain target).head? ≠ some sigil
  | .malformed _ _ => True

/-- The name of a call has no sigil, so a call without a target finds no probe. -/
theorem Clause.targetProbe_eq_none {σ : Type} {text : List Char} {target : String}
    {spec : CallSpec} (hparse : parse text = .call target spec)
    (hstray : (call target spec).IsStray) (S : Setting σ) :
    Resolution.targetProbe S target spec.name = none := by
  have hname : Address.IsStray spec.name := by
    obtain ⟨hspec, -⟩ := writable_of_parse hparse
    obtain ⟨c, rest, hchars⟩ := List.exists_cons_of_ne_nil hspec.name_ne_nil
    have hword : Text.isWordChar c = true := hspec.name_word c (by simp [hchars])
    have hothers : [sigil, '.', '['].all (fun d => !Text.isWordChar d) = true := by decide +kernel
    rw [← String.ofList_toList (s := spec.name), hchars]
    refine Address.isStray_of_head fun hmem => ?_
    simpa [hword] using List.all_eq_true.mp hothers c hmem
  unfold Resolution.targetProbe
  cases hhead : (Address.plain target).head? with
  | none =>
    have hroot : Address.lookup S.root target = some S.root := by
      rw [Address.lookup, Address.segments, if_pos (List.head?_eq_none_iff.mp hhead)]
      rfl
    have hnone : Address.lookup S.root spec.name = none := Address.isStray_iff.mp hname S.store
    simp [hroot, hnone]
  | some c =>
    have htarget : Address.IsStray target := ⟨c, hhead, fun hc => hstray (hc ▸ hhead)⟩
    have hnone : Address.lookup S.root target = none := Address.isStray_iff.mp htarget S.store
    simp [hnone]

namespace Criterion

def OpensStray (key : String) : Prop :=
  ∀ word ∈ (words key.toList).head?, (Clause.parse word).IsStray

theorem parse_isStray_of_head {c : Char} {rest : List Char} (h : c ∉ [sigil, ':', '.', '[']) :
    (Clause.parse (c :: rest)).IsStray := by
  simp only [List.mem_cons, List.not_mem_nil, or_false, not_or] at h
  obtain ⟨hsigil, hcolon, hdot, hbracket⟩ := h
  -- The part of the word before its first colons begins with the same character.
  have hfront {front back : List Char} (hword : c :: rest = front ++ ':' :: back) :
      ∃ others, front = c :: others := by
    cases front with
    | nil => exact absurd (List.cons.inj hword).1 hcolon
    | cons d others => exact ⟨others, by rw [(List.cons.inj hword).1]⟩
  have hstray (others : List Char) : Address.IsStray (String.ofList (c :: others)) :=
    Address.isStray_of_head (by simp [hsigil, hdot, hbracket])
  unfold Clause.parse
  cases hpair : Text.cutPair ':' ':' (c :: rest) with
  | some parts =>
    obtain ⟨target, signature⟩ := parts
    obtain ⟨others, rfl⟩ := hfront (Text.eq_append_of_cutPair hpair)
    dsimp only
    cases CallSpec.parse? signature with
    | none => trivial
    | some spec =>
      rw [Clause.IsStray, Address.head?_plain hdot hbracket]
      simpa using hsigil
  | none =>
    dsimp only
    cases hcut : Text.cut ':' (c :: rest) with
    | none => exact hstray rest
    | some parts =>
      obtain ⟨address, values⟩ := parts
      obtain ⟨others, rfl⟩ := hfront (Text.cut_eq_some.mp hcut).1
      exact hstray others

/-- A word is stray unless it begins with the sigil, or with a colon, a dot or an opening
bracket. -/
theorem opensStray_of_head {key : String}
    (h : ∀ word ∈ (words key.toList).head?, ∀ c ∈ word.head?, c ∉ [sigil, ':', '.', '[']) :
    OpensStray key := by
  intro word hword
  have hne : word ≠ [] := (isWord_of_mem_words (List.mem_of_mem_head? hword)).ne_nil
  obtain ⟨c, rest, rfl⟩ := List.exists_cons_of_ne_nil hne
  exact parse_isStray_of_head (h _ hword c rfl)

end Criterion

/-- The first state has counted so much more. Otherwise the states differ only in the address that
was looked up last, and in what has been noted besides calls. -/
structure State.Detoured {σ : Type} (share : Metrics) (s t : State σ) : Prop where
  depth : s.depth = t.depth
  metrics : s.metrics = t.metrics + share
  probes : s.probes = t.probes
  calls : s.journal.filterMap Event.call? = t.journal.filterMap Event.call?

theorem State.Detoured.refl {σ : Type} (s : State σ) : s.Detoured {} s :=
  ⟨rfl, (add_zero s.metrics).symm, rfl, rfl⟩

namespace Resolution

variable {σ α β : Type}

abbrev DetouredRuns (share : Metrics) (run run' : Except DepthExceeded α × State σ) : Prop :=
  Alongside (State.Detoured share) (fun e f => e.limit = f.limit) (fun _ => True) run run'

/-- A state that has taken a detour stays ahead by as much. -/
theorem simulation_detoured (S : Setting σ) (share : Metrics) :
    SimulationUpTo S S (fun _ => True) (State.Detoured share) fun e f => e.limit = f.limit where
  refuse limit h := ⟨rfl, h.depth, h.metrics, h.probes, h.calls⟩
  enter h := by
    refine ⟨congrArg (· + 1) h.depth, ?_, h.probes, h.calls⟩
    rw [State.enter_metrics, State.enter_metrics, h.metrics, h.depth, add_right_comm]
  leave h := ⟨congrArg (· - 1) h.depth, h.metrics, h.probes, h.calls⟩
  note event h := by
    refine ⟨h.depth, h.metrics, h.probes, ?_⟩
    simp only [State.note, List.filterMap_cons, h.calls]
  count hchange h := by
    refine ⟨h.depth, ?_, h.probes, h.calls⟩
    simp only [State.count, hchange, h.metrics, add_right_comm]
  lookup address found h := by
    refine ⟨h.depth, ?_, h.probes, h.calls⟩
    simp [noteLookup, h.metrics, Metrics.add_def, Nat.add_right_comm]
  call cause probe args _ s t h := by
    have hcalls : ((probe, args) :: s.journal.filterMap Event.call?) =
        (probe, args) :: t.journal.filterMap Event.call? := by rw [h.calls]
    unfold call
    rw [h.probes]
    refine .ok trivial ⟨h.depth, ?_, rfl, hcalls⟩
    simp [h.metrics, Metrics.add_def, Nat.add_right_comm]
  finish h := ⟨h.depth, h.metrics, h.probes, h.calls⟩

theorem lockstep_detoured (S : Setting σ) (share : Metrics) :
    Lockstep S S (fun _ => True) (fun _ => True) fun _ Φ (m n : Resolution σ _) =>
      ParallelUpTo (State.Detoured share) (fun e f => e.limit = f.limit) Φ m n :=
  (simulation_detoured S share).lockstep closed_trivial rfl trivial rfl fun _ _ => Or.inr rfl

variable {S : Setting σ} {d : Value → Resolution σ Value}

/-- A stray clause captures nothing. It looks up its address, if it has one, and calls no probe. -/
theorem capture_of_isStray {text : List Char} (h : (Clause.parse text).IsStray) (s : State σ) :
    ∃ lookups ≤ 1, ∃ t, capture S d (Clause.parse text) s = (.ok none, t) ∧
      t.Detoured { lookups := lookups } s := by
  -- A stray address leads nowhere in any store.
  have haccess {address : String} (hstray : Address.IsStray address) :
      access S d address s = (.ok none, (noteLookup address false s).2) := by
    have hnone : Address.lookup S.root address = none := Address.isStray_iff.mp hstray S.store
    unfold access
    rw [hnone]
    rfl
  have hlookedUp (address : String) :
      (noteLookup address false s).2.Detoured { lookups := 1 } s := by
    refine ⟨rfl, ?_, rfl, rfl⟩
    simp [noteLookup, Metrics.add_def]
  cases hparse : Clause.parse text with
  | bare address =>
    rw [hparse] at h
    exact ⟨1, Nat.le_refl 1, _, bind_of_ok (haccess h) _, hlookedUp address⟩
  | oneOf address alternatives =>
    rw [hparse] at h
    exact ⟨1, Nat.le_refl 1, _, bind_of_ok (haccess h) _, hlookedUp address⟩
  | call target spec =>
    rw [hparse] at h
    have hprobe := Clause.targetProbe_eq_none hparse h S
    refine ⟨0, Nat.zero_le 1, s.note (.located target spec.name none), ?_,
      ⟨rfl, (add_zero s.metrics).symm, rfl, rfl⟩⟩
    simp only [capture, callClause, hprobe]
    rfl
  | malformed target signature =>
    exact ⟨0, Nat.zero_le 1, s.note (.malformed target signature), rfl,
      ⟨rfl, (add_zero s.metrics).symm, rfl, rfl⟩⟩

theorem returns_capture_of_isStray {text : List Char} (h : (Clause.parse text).IsStray) :
    Returns (· = none) (capture S d (Clause.parse text)) := by
  intro s found t hrun
  obtain ⟨_, -, _, hcapture, -⟩ := capture_of_isStray (S := S) (d := d) h s
  rw [hcapture, Prod.mk.injEq, Except.ok.injEq] at hrun
  exact hrun.1.symm

/-- Clauses with a stray one among them fail, unless a bare address ends them before it. -/
theorem returns_failed_of_isStray (front : List (List Char)) {word : List Char}
    (back : List (List Char)) (h : (Clause.parse word).IsStray)
    (hfront : ∀ earlier ∈ front, (Clause.parse earlier).isBare = false) (parts : Nat)
    (captured : Value) :
    Returns (· = .failed)
      (judgeFrom S d parts captured ((front ++ word :: back).map Clause.parse)) := by
  induction front generalizing parts captured with
  | nil =>
    refine Returns.after fun _ => (returns_capture_of_isStray h).bind ?_
    rintro _ rfl
    exact returns_pure rfl
  | cons earlier rest ih =>
    obtain ⟨hearlier, hrest⟩ := List.forall_mem_cons.mp hfront
    refine Returns.after fun _ => Returns.after fun found => ?_
    cases found with
    | none => exact returns_pure rfl
    | some v =>
      simp only [hearlier, Bool.false_eq_true, if_false]
      exact ih hrest (parts + 1) v

/-- A criterion that opens with a stray clause fails, with a look-up at most. -/
theorem judge_of_opensStray {key : String} (h : Criterion.OpensStray key) (s : State σ) :
    ∃ lookups ≤ 1, ∃ t, judge S d (Criterion.parse key) s = (.ok .failed, t) ∧
      t.Detoured { lookups := lookups } s := by
  unfold Criterion.OpensStray at h
  unfold Criterion.parse
  cases hwords : Criterion.words key.toList with
  | nil => exact ⟨0, Nat.zero_le 1, s, rfl, .refl s⟩
  | cons word others =>
    obtain ⟨lookups, hle, t, hcapture, hdetour⟩ := capture_of_isStray (S := S) (d := d)
      (h word (by simp [hwords])) (s.note (.reached (Clause.parse word)))
    exact ⟨lookups, hle, t, bind_of_ok hcapture _,
      ⟨hdetour.depth, hdetour.metrics, hdetour.probes, hdetour.calls⟩⟩

/-- A branch that opens with a stray clause is counted and passed over. -/
theorem select_of_opensStray {key : String} (h : Criterion.OpensStray key) (outcome : Value)
    (rest : List Branch) (selection : Selection) (s : State σ) :
    ∃ lookups ≤ 1, ∃ t, t.Detoured { criteria := 1, lookups := lookups } s ∧
      select S d (Rule.branchOf key outcome :: rest) selection s = select S d rest selection t := by
  obtain ⟨lookups, hle, t, hjudge, hdetour⟩ := judge_of_opensStray (S := S) (d := d) h
    (s.count fun m => { m with criteria := m.criteria + 1 })
  refine ⟨lookups, hle, t.note (.failed key), ⟨hdetour.depth, ?_, hdetour.probes, hdetour.calls⟩,
    bind_of_ok hjudge _⟩
  simp [State.note, hdetour.metrics, State.count, Metrics.add_def]

/-- From every state the two come to the same, or fail at the same limit. The first one counts at
most one criterion and one look-up more. -/
def Detours (m n : Resolution σ α) : Prop :=
  ∀ s, ∃ criteria ≤ 1, ∃ lookups ≤ criteria,
    DetouredRuns { criteria := criteria, lookups := lookups } (m s) (n s)

/-- What comes before is the same for both. -/
theorem Detours.after {m : Resolution σ α} {f g : α → Resolution σ β}
    (h : ∀ a, Detours (f a) (g a)) : Detours (m >>= f) (m >>= g) := by
  intro s
  rcases hrun : m s with ⟨result, t⟩
  cases result with
  | error e =>
    rw [bind_of_error hrun, bind_of_error hrun]
    exact ⟨0, Nat.zero_le 1, 0, Nat.le_refl 0, Alongside.error rfl (.refl t)⟩
  | ok a =>
    rw [bind_of_ok hrun, bind_of_ok hrun]
    exact h a t

/-- The branch is passed over, and what is chosen is settled alike. -/
theorem detours_select {key : String} (h : Criterion.OpensStray key) (outcome : Value)
    (levels : Nat) (rest : List Branch) (selection : Selection) :
    Detours
      (select S (descendWithin S levels) (Rule.branchOf key outcome :: rest) selection >>=
        fun selection => settle S (descendWithin S levels) selection.chosen)
      (select S (descendWithin S levels) rest selection >>=
        fun selection => settle S (descendWithin S levels) selection.chosen) := by
  intro s
  obtain ⟨lookups, hle, t, hdetour, hselect⟩ := select_of_opensStray (S := S)
    (d := descendWithin S levels) h outcome rest selection s
  have hstep := lockstep_detoured S { criteria := 1, lookups := lookups }
  have hlevel := hstep.level levels
  have hchosen : ∀ v ∈ selection.chosen, True := fun _ _ => trivial
  have hrest := hlevel.bind (hlevel.select rest (fun _ _ => trivial) hchosen)
    fun _ hlast => hlevel.settle hlast
  refine ⟨1, Nat.le_refl 1, lookups, hle, ?_⟩
  rw [bind_apply, hselect, ← bind_apply]
  exact hrest t s hdetour

/-- A key of a rule that is no fallback key and opens with a stray clause takes no part in the rule,
as long as the rest is still a rule. From every state the rule comes to the same value as without
the key, or both fail at the same limit, with the same calls of probes. Its counters show at most
one criterion and one look-up more. If the stray clause comes later, but before any bare address,
the key does not match either, but the clauses before it are evaluated. A key opens with a stray
clause unless its first word begins with the sigil, a colon, a dot or an opening bracket, and the
addresses that count as stray are those that lead nowhere in any store. -/
theorem resolveWithin_stray_key (S : Setting σ) (levels : Nat) {before after : Record}
    {key : String} (outcome : Value) (hkey : isFallbackKey key = false)
    (hrule : isRule (before ++ after) = true) :
    ((∀ word ∈ (Criterion.words key.toList).head?, ∀ c ∈ word.head?,
        c ∉ [sigil, ':', '.', '[']) → Criterion.OpensStray key) ∧
    (∀ path, Address.IsStray path ↔
      ∀ store : Store, Address.lookup store.toValue path = none) ∧
    (∀ front word back, Criterion.words key.toList = front ++ word :: back →
      (Clause.parse word).IsStray → (∀ earlier ∈ front, (Clause.parse earlier).isBare = false) →
      Returns (· = .failed) (judge S (descendWithin S levels) (Criterion.parse key))) ∧
    (Criterion.OpensStray key → ∀ s : State σ, ∃ criteria ≤ 1, ∃ lookups ≤ criteria,
      DetouredRuns { criteria := criteria, lookups := lookups }
        (resolveWithin S levels (.object (before ++ (key, outcome) :: after)) s)
        (resolveWithin S levels (.object (before ++ after)) s)) := by
  refine ⟨Criterion.opensStray_of_head, fun _ => Address.isStray_iff,
    fun front word back hwords hword hfront => ?_, fun hstray => ?_⟩
  · rw [Criterion.parse, hwords]
    exact returns_failed_of_isStray front back hword hfront 0 .null
  rw [resolveWithin_eq, walk_of_isRule (isRule_around (key, outcome) hrule), walk_of_isRule hrule,
    Rule.fallbackOf_around outcome hkey, Rule.branchesOf_around outcome hkey,
    Rule.branchesOf_append]
  simp only [select_append, bind_assoc]
  have hlater (selection : Selection) := detours_select (S := S) hstray outcome levels
    (Rule.branchesOf after) selection
  have hearlier (seeded : Option Value) := Detours.after
    (m := select S (descendWithin S levels) (Rule.branchesOf before) (.start seeded)) hlater
  exact Detours.after (m := visitRule S (Rule.fallbackOf (before ++ after))) hearlier

def statusSetting : Setting Unit where
  store := Store.ofRecord [("@auth", .object [("status", .string "in")])]
  options := {}
  invoke := fun _ _ _ => (.null, ())

/-- The address without the sigil is stray, so its rule has the outcome of the other branch. -/
theorem resolveWithin_stray_key_status :
    (resolveWithin statusSetting 1 (.object [("default", .string "out"),
        ("@auth.status:in", .string "yes"), ("auth.status @auth", .string "no")])
      { probes := () }).1.toOption.bind Value.string? = some "yes" := by
  have hword : (Criterion.words "auth.status @auth".toList).head? = some "auth.status".toList := by
    decide +kernel
  have hopens : ∀ word ∈ (Criterion.words "auth.status @auth".toList).head?,
      ∀ c ∈ word.head?, c ∉ [sigil, ':', '.', '['] := by
    rw [hword]
    simp [sigil]
  have hrule : isRule ([("default", .string "out"), ("@auth.status:in", .string "yes")] ++ []) =
      true := by decide +kernel
  have hkey : isFallbackKey "auth.status @auth" = false := by decide +kernel
  obtain ⟨hstray, -, -, hruns⟩ := resolveWithin_stray_key statusSetting 1 (.string "no") hkey hrule
  obtain ⟨_, -, _, -, hrun⟩ := hruns (hstray hopens) { probes := () }
  exact (congrArg (Option.bind · Value.string?) hrun.toOption_eq).trans (by decide +kernel)

/-- Not every key is inert of whose words none begins with the sigil. A dot is the address of the
whole store, which is resolved as a rule. -/
theorem not_inert_of_dot : ¬∀ (S : Setting Unit) (levels : Nat) (before after : Record)
    (key : String) (outcome : Value) (s t u : State Unit) (v w : Value),
    isFallbackKey key = false → (∀ word ∈ Criterion.words key.toList, word.head? ≠ some sigil) →
    isRule (before ++ after) = true →
    resolveWithin S levels (.object (before ++ (key, outcome) :: after)) s = (.ok v, t) →
    resolveWithin S levels (.object (before ++ after)) s = (.ok w, u) → v = w := by
  intro hall
  have hstore : ((resolveWithin statusSetting 3 (.object [("default", .string "d"),
      (".", .string "x")]) { probes := () }).1.toOption.bind Value.object?).isSome = true := by
    decide +kernel
  obtain ⟨v, hwith⟩ := exists_of_isOk (m := resolveWithin statusSetting 3
    (.object [("default", .string "d"), (".", .string "x")])) (s := { probes := () })
    (by decide +kernel)
  obtain ⟨w, hwithout⟩ := exists_of_isOk (m := resolveWithin statusSetting 3
    (.object [("default", .string "d")])) (s := { probes := () }) (by decide +kernel)
  have hdefault : (resolveWithin statusSetting 3 (.object [("default", .string "d")])
      { probes := () }).1.toOption.bind Value.string? = some "d" := by decide +kernel
  have hsame := hall statusSetting 3 [("default", .string "d")] [] "." (.string "x")
    { probes := () } _ _ v w (by decide +kernel) (by decide +kernel) (by decide +kernel) hwith
    hwithout
  rw [hwith] at hstore
  rw [hwithout, ← hsame] at hdefault
  cases v <;> simp [Except.toOption, Value.object?, Value.string?] at hstore hdefault

end Resolution
end RuleTemplate
