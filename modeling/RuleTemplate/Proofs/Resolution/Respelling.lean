import RuleTemplate.Proofs.Address
import RuleTemplate.Proofs.Criterion.Canonical
import RuleTemplate.Proofs.Resolution.Alignment

/-!
How an address is spelled does not matter to a call that it is an argument of: what the call
captures and what its probe is called with depend on the segments of the address only. But the
first closing bracket of a call clause ends its arguments, so a clause that is written with a
segment in brackets is always read as another call, whose arguments end in the midst of the
address.
-/
namespace RuleTemplate

/-- The states differ in nothing but the spelling of addresses in what has been noted. -/
structure State.Alike {σ : Type} (s t : State σ) : Prop where
  depth : s.depth = t.depth
  lastAddress : Address.segments s.lastAddress = Address.segments t.lastAddress
  metrics : s.metrics = t.metrics
  probes : s.probes = t.probes
  calls : s.journal.filterMap Event.call? = t.journal.filterMap Event.call?

theorem State.Alike.refl {σ : Type} (s : State σ) : s.Alike s := ⟨rfl, rfl, rfl, rfl, rfl⟩

inductive SameArgument : String → String → Prop
  | same (text : String) : SameArgument text text
  | respelled {text other : String} : hasSigil text = true → hasSigil other = true →
      Address.segments text = Address.segments other → SameArgument text other

namespace CallSpec

open Address (Respelling)

structure Written (arg : String × String) : Prop extends Separable arg where
  closing : ']' ∉ argText arg

structure Writable (spec : CallSpec) : Prop where
  name_ne_nil : spec.name.toList ≠ []
  name_word : ∀ c ∈ spec.name.toList, Text.isWordChar c = true
  args : ∀ arg ∈ spec.args, Written arg
  colon_notMem_property : ':' ∉ spec.property.toList

theorem notMem_displayArgs {args : List (String × String)} (h : ∀ arg ∈ args, Written arg) :
    ']' ∉ (displayArgs args).toList := by
  rw [toList_displayArgs]
  intro hclosing
  rcases Text.of_mem_intercalate hclosing with hcomma | ⟨piece, hpiece, hmem⟩
  · simp at hcomma
  · obtain ⟨arg, harg, rfl⟩ := List.mem_map.mp hpiece
    exact (h arg harg).closing hmem

namespace Writable

variable {spec : CallSpec}

def signature (h : spec.Writable) : Signature where
  name := spec.name.toList
  args := (displayArgs spec.args).toList
  property := spec.property.toList
  matcher := spec.matcher.toList
  name_ne_nil := h.name_ne_nil
  name_word := h.name_word
  bracket_notMem_args := notMem_displayArgs h.args
  colon_notMem_property := h.colon_notMem_property

theorem text_signature (h : spec.Writable) : h.signature.text = spec.display.toList := by
  simp [signature, Signature.text, display]

theorem spec_signature (h : spec.Writable) : h.signature.spec = spec := by
  have hargs := parseArgs_displayArgs fun arg harg => (h.args arg harg).toSeparable
  simp only [signature, Signature.spec, String.ofList_toList, hargs]

end Writable

theorem Signature.writable (sig : Signature) : sig.spec.Writable := by
  refine ⟨by simpa [spec] using sig.name_ne_nil, by simpa [spec] using sig.name_word,
    fun arg harg => ?_, by simpa [spec] using sig.colon_notMem_property⟩
  obtain ⟨hseparable, hchars⟩ := of_mem_parseArgs harg
  refine ⟨hseparable, fun hclosing => ?_⟩
  rcases hchars ']' hclosing with hmem | hcolon
  · exact sig.bracket_notMem_args hmem
  · exact absurd hcolon (by decide)

/-- The part of an argument before a segment in brackets, and the segment. -/
theorem Written.beforeClosing {key : String} {r : Respelling} (h : Written (key, r.withDot)) :
    Written (key, r.beforeClosing) := by
  obtain ⟨⟨hkey, hcommas⟩, hclosings⟩ := h
  simp only [argText, Respelling.withDot, String.toList_ofList, List.mem_append, List.mem_cons,
    not_or] at hcommas hclosings
  refine ⟨⟨hkey, ?_⟩, ?_⟩
  · simp [argText, Respelling.beforeClosing, hcommas]
  · simp [argText, Respelling.beforeClosing, hclosings]

/-- A call with a segment of an argument in brackets is displayed as another one. Its arguments
end before the closing bracket, and what comes after that is its property and its matcher. -/
theorem exists_display_eq (spec : CallSpec) (before after : List (String × String)) (key : String)
    (r : Respelling) : ∃ property matcher : String, ':' ∉ property.toList ∧
    ({ spec with args := before ++ (key, r.withBrackets) :: after } : CallSpec).display =
      (⟨spec.name, before ++ [(key, r.beforeClosing)], property, matcher⟩ : CallSpec).display := by
  have hpiece : argText (key, r.withBrackets) =
      argText (key, r.beforeClosing) ++ ']' :: r.trail := by
    simp [argText, Respelling.withBrackets, Respelling.beforeClosing]
  obtain ⟨rest, hrest⟩ : ∃ rest,
      (displayArgs (before ++ (key, r.withBrackets) :: after)).toList =
        (displayArgs (before ++ [(key, r.beforeClosing)])).toList ++ (']' :: r.trail ++ rest) := by
    simp only [toList_displayArgs, List.map_append, List.map_cons, List.map_nil, hpiece]
    exact Text.exists_intercalate_append [','] _ _ _ _
  have htail : Text.cut ':'
      (r.trail ++ rest ++ ']' :: (spec.property.toList ++ ':' :: spec.matcher.toList)) ≠ none :=
    mt Text.cut_eq_none.mp (by simp)
  obtain ⟨⟨property, matcher⟩, hcut⟩ := Option.ne_none_iff_exists'.mp htail
  obtain ⟨htail, hproperty⟩ := Text.cut_eq_some.mp hcut
  refine ⟨String.ofList property, String.ofList matcher, by simpa using hproperty, ?_⟩
  rw [← String.toList_inj]
  simp only [display, String.toList_append, String.toList_ofList, hrest]
  simp [← htail]

end CallSpec

namespace Clause

open Address (Respelling)

theorem parse_display_of_writable {target : String} {spec : CallSpec} (h : spec.Writable)
    (htarget : ¬[':', ':'] <:+: target.toList ++ [':']) :
    parse (call target spec).display.toList = call target spec := by
  have htext : (call target spec).display.toList =
      target.toList ++ ':' :: ':' :: h.signature.text := by
    simp [display, h.text_signature]
  rw [parse_of_isCallText ⟨htext, htarget⟩, h.spec_signature, String.ofList_toList]

theorem writable_of_parse {text : List Char} {target : String} {spec : CallSpec}
    (h : parse text = call target spec) :
    spec.Writable ∧ ¬[':', ':'] <:+: target.toList ++ [':'] := by
  rcases isCallText_or_display_parse text with ⟨front, sig, hcall⟩ | ⟨hother, -⟩
  · have hparse := parse_of_isCallText hcall
    rw [h, call.injEq] at hparse
    obtain ⟨rfl, rfl⟩ := hparse
    exact ⟨sig.writable, by simpa using hcall.pair_notMem_target⟩
  · exact absurd h (hother target spec)

/-- The text of a call with a segment of an argument in brackets is that of another call, and is
read as that. -/
theorem parse_bracketed {text : List Char} {target : String} {spec : CallSpec}
    (h : parse text = call target spec) {before after : List (String × String)} {key : String}
    {r : Respelling} (hargs : spec.args = before ++ (key, r.withDot) :: after) :
    ∃ property matcher, ':' ∉ property.toList ∧
      ({ spec with args := before ++ (key, r.withBrackets) :: after } : CallSpec).display =
        (⟨spec.name, before ++ [(key, r.beforeClosing)], property, matcher⟩ : CallSpec).display ∧
      parse (call target
          { spec with args := before ++ (key, r.withBrackets) :: after }).display.toList =
        call target ⟨spec.name, before ++ [(key, r.beforeClosing)], property, matcher⟩ := by
  obtain ⟨hspec, htarget⟩ := writable_of_parse h
  obtain ⟨property, matcher, hproperty, hdisplay⟩ :=
    CallSpec.exists_display_eq spec before after key r
  have hwritten : ∀ arg ∈ before ++ [(key, r.beforeClosing)], CallSpec.Written arg := by
    have hall := hspec.args
    simp only [hargs, List.forall_mem_append, List.forall_mem_cons, List.not_mem_nil,
      false_implies, implies_true, and_true] at hall ⊢
    exact ⟨hall.1, hall.2.1.beforeClosing⟩
  have hmisread : CallSpec.Writable
      ⟨spec.name, before ++ [(key, r.beforeClosing)], property, matcher⟩ :=
    ⟨hspec.name_ne_nil, hspec.name_word, hwritten, hproperty⟩
  refine ⟨property, matcher, hproperty, hdisplay, ?_⟩
  rw [display, hdisplay]
  exact parse_display_of_writable hmisread htarget

end Clause

namespace Resolution

variable {σ α β : Type}

/-- The runs come to the same, or they fail at the same limit and name the same path. -/
inductive AlikeRuns (Φ : α → Prop) :
    Except DepthExceeded α × State σ → Except DepthExceeded α × State σ → Prop
  | ok {a : α} {s t : State σ} : Φ a → s.Alike t → AlikeRuns Φ (.ok a, s) (.ok a, t)
  | error {e f : DepthExceeded} {s t : State σ} : e.limit = f.limit →
      Address.segments e.address = Address.segments f.address → s.Alike t →
      AlikeRuns Φ (.error e, s) (.error f, t)

def Interchangeable (Φ : α → Prop) (m n : Resolution σ α) : Prop :=
  ∀ s t, s.Alike t → AlikeRuns Φ (m s) (n t)

theorem Interchangeable.bind {Φ : α → Prop} {Ψ : β → Prop} {m n : Resolution σ α}
    {f g : α → Resolution σ β} (hm : Interchangeable Φ m n)
    (hf : ∀ a, Φ a → Interchangeable Ψ (f a) (g a)) :
    Interchangeable Ψ (m >>= f) (n >>= g) := by
  intro s t hst
  have hfirst := hm s t hst
  rcases hrun : m s with ⟨result, s'⟩
  rcases hrun' : n t with ⟨result', t'⟩
  rw [hrun, hrun'] at hfirst
  cases hfirst with
  | ok ha halike =>
    rw [bind_of_ok hrun, bind_of_ok hrun']
    exact hf _ ha s' t' halike
  | error hlimit haddress halike =>
    rw [bind_of_error hrun, bind_of_error hrun']
    exact .error hlimit haddress halike

theorem interchangeable_pure {Φ : α → Prop} {a : α} (ha : Φ a) :
    Interchangeable Φ (pure a : Resolution σ α) (pure a) :=
  fun _ _ hst => .ok ha hst

/-- Two steps may be noted differently, unless they are calls. -/
theorem interchangeable_note {event event' : Event} (h : event.call? = event'.call?) :
    Interchangeable (fun _ => True) (note event : Resolution σ Unit) (note event') := by
  refine fun s t hst => .ok trivial ⟨hst.depth, hst.lastAddress, hst.metrics, hst.probes, ?_⟩
  simp only [State.note, List.filterMap_cons, h, hst.calls]

theorem interchangeable_count (change : Metrics → Metrics) :
    Interchangeable (fun _ => True) (count change : Resolution σ Unit) (count change) :=
  fun _ _ hst => .ok trivial
    ⟨hst.depth, hst.lastAddress, congrArg change hst.metrics, hst.probes, hst.calls⟩

/-- Two spellings of a path are looked up alike. -/
theorem interchangeable_noteLookup {address other : String}
    (h : Address.segments address = Address.segments other) (found : Bool) :
    Interchangeable (fun _ => True) (noteLookup address found : Resolution σ Unit)
      (noteLookup other found) := by
  refine fun s t hst => .ok trivial ⟨hst.depth, h, ?_, hst.probes, hst.calls⟩
  simp only [hst.metrics]

/-- A probe is called alike, whatever the clause looks like that it is called for. -/
theorem interchangeable_call (S : Setting σ) (cause cause' : Cause) (probe : Probe)
    (args : Record) : Interchangeable (fun _ => True) (call S cause probe args)
      (call S cause' probe args) := by
  intro s t hst
  have hcalls : ((probe, args) :: s.journal.filterMap Event.call?) =
      (probe, args) :: t.journal.filterMap Event.call? := by rw [hst.calls]
  unfold call
  rw [hst.probes, hst.metrics]
  exact .ok trivial ⟨hst.depth, hst.lastAddress, rfl, rfl, hcalls⟩

theorem interchangeable_congruence :
    Congruence fun _ Φ (m n : Resolution σ _) => Interchangeable Φ m n where
  pure := interchangeable_pure
  bind := Interchangeable.bind
  note _ _ := interchangeable_note rfl
  count change _ := interchangeable_count change

/-- Runs in one setting are alike from states that are. -/
theorem interchangeable_lockstep (S : Setting σ) :
    Lockstep S S (fun _ => True) (fun _ => True)
      fun _ Φ (m n : Resolution σ _) => Interchangeable Φ m n where
  aligned := interchangeable_congruence.aligned closed_trivial rfl trivial rfl
    (interchangeable_count _) (fun _ _ => interchangeable_note rfl)
    (fun _ found => interchangeable_noteLookup rfl found)
    (fun cause probe args _ _ => interchangeable_call S cause cause probe args)
  limit := rfl
  refuse s t hst := .error rfl hst.lastAddress
    ⟨hst.depth, hst.lastAddress, hst.metrics, hst.probes, hst.calls⟩
  nested m n hm s t hst := by
    have henter : s.enter.Alike t.enter :=
      ⟨congrArg (· + 1) hst.depth, hst.lastAddress, by
        simp only [State.enter, hst.metrics, hst.depth], hst.probes, hst.calls⟩
    have hinner := hm s.enter t.enter henter
    rw [nested_apply, nested_apply]
    generalize m s.enter = run at hinner
    generalize n t.enter = run' at hinner
    have hleave {u w : State σ} (h : u.Alike w) : u.leave.Alike w.leave :=
      ⟨congrArg (· - 1) h.depth, h.lastAddress, h.metrics, h.probes, h.calls⟩
    cases hinner with
    | ok ha halike => exact .ok ha (hleave halike)
    | error hlimit haddress halike => exact .error hlimit haddress (hleave halike)
  finish s t hst := .ok trivial
    ⟨hst.depth, hst.lastAddress, hst.metrics, hst.probes, hst.calls⟩

section Arguments

variable {S : Setting σ} {d : Value → Resolution σ Value}
  (hd : ∀ v, Interchangeable (fun _ => True) (d v) (d v))
include hd

theorem interchangeable_access {address other : String}
    (h : Address.segments address = Address.segments other) :
    Interchangeable (fun _ => True) (access S d address) (access S d other) := by
  unfold access Address.lookup
  rw [h]
  refine (interchangeable_noteLookup h _).bind fun _ _ => ?_
  cases Address.follow S.root (Address.segments other) with
  | none => exact interchangeable_pure trivial
  | some v => exact interchangeable_congruence.map (hd v) fun _ _ => trivial

theorem interchangeable_argument {text other : String} (h : SameArgument text other) :
    Interchangeable (fun _ => True) (argument S d text) (argument S d other) := by
  unfold argument
  cases h with
  | same =>
    split
    · exact (interchangeable_access hd rfl).bind fun _ _ => interchangeable_pure trivial
    · exact interchangeable_pure trivial
  | respelled htext hother hsegments =>
    rw [if_pos htext, if_pos hother]
    exact (interchangeable_access hd hsegments).bind fun _ _ => interchangeable_pure trivial

theorem interchangeable_bindArgs {args others : List (String × String)}
    (h : List.Forall₂ (fun arg other => arg.1 = other.1 ∧ SameArgument arg.2 other.2) args others)
    (bound : Record) :
    Interchangeable (fun _ => True) (bindArgs S d args bound) (bindArgs S d others bound) := by
  induction h generalizing bound with
  | nil => exact interchangeable_pure trivial
  | @cons arg other _ _ hsame _ ih =>
    obtain ⟨name, text⟩ := arg
    obtain ⟨name', text'⟩ := other
    obtain ⟨rfl, hsame⟩ : name = name' ∧ SameArgument text text' := hsame
    exact (interchangeable_argument hd hsame).bind fun v _ => ih _

/-- Calls with arguments that say the same capture the same, and call the same probe with the
same record. -/
theorem interchangeable_callClause (target : String) (spec : CallSpec)
    {others : List (String × String)}
    (h : List.Forall₂ (fun arg other => arg.1 = other.1 ∧ SameArgument arg.2 other.2) spec.args
      others) :
    Interchangeable (fun _ => True) (callClause S d target spec)
      (callClause S d target { spec with args := others }) := by
  refine (interchangeable_note rfl).bind fun _ _ => ?_
  cases targetProbe S target spec.name with
  | none => exact interchangeable_pure trivial
  | some probe =>
    refine (interchangeable_bindArgs hd h []).bind fun args _ => ?_
    refine (interchangeable_call S _ _ probe args).bind fun returned _ => ?_
    have hcompared : Interchangeable (fun _ => True)
        (note (.compared target spec (extract spec returned)) : Resolution σ Unit)
        (note (.compared target { spec with args := others } (extract spec returned))) :=
      interchangeable_note rfl
    exact hcompared.bind fun _ _ => interchangeable_pure trivial

end Arguments

open Address (Respelling)

/-- An argument of a call that is an address, and a segment of it that is not the first. Whether
the segment stands after a dot or in brackets does not matter to the call: it comes to the same
and its probe is called with the same record. But the text of the call with the brackets is that
of another call, and is read as that: its arguments end before the closing bracket. -/
theorem respelled_argument {text : List Char} {target : String} {spec : CallSpec}
    (h : Clause.parse text = .call target spec) {before after : List (String × String)}
    {key : String} {r : Respelling} (hargs : spec.args = before ++ (key, r.withDot) :: after) :
    (∀ (S : Setting σ) (levels : Nat) (s : State σ), AlikeRuns (fun _ => True)
      (callClause S (descendWithin S levels) target spec s)
      (callClause S (descendWithin S levels) target
        { spec with args := before ++ (key, r.withBrackets) :: after } s)) ∧
    ∃ property matcher, ':' ∉ property.toList ∧
      ({ spec with args := before ++ (key, r.withBrackets) :: after } : CallSpec).display =
        (⟨spec.name, before ++ [(key, r.beforeClosing)], property, matcher⟩ : CallSpec).display ∧
      Clause.parse (Clause.call target
          { spec with args := before ++ (key, r.withBrackets) :: after }).display.toList =
        .call target ⟨spec.name, before ++ [(key, r.beforeClosing)], property, matcher⟩ := by
  refine ⟨fun S levels s => ?_, Clause.parse_bracketed h hargs⟩
  obtain ⟨hspec, -⟩ := Clause.writable_of_parse h
  have hclosing : ']' ∉ r.withDot.toList := by
    have hwritten := (hspec.args (key, r.withDot) (by simp [hargs])).closing
    simp only [CallSpec.argText, List.mem_append, List.mem_cons, not_or] at hwritten
    exact hwritten.2.2
  have hrespelled : SameArgument r.withDot r.withBrackets :=
    .respelled r.hasSigil_withDot r.hasSigil_withBrackets (r.segments_withBrackets hclosing).symm
  have hsame (args : List (String × String)) : List.Forall₂
      (fun arg other => arg.1 = other.1 ∧ SameArgument arg.2 other.2) args args :=
    List.forall₂_same.mpr fun arg _ => ⟨rfl, .same arg.2⟩
  have hall : List.Forall₂ (fun arg other => arg.1 = other.1 ∧ SameArgument arg.2 other.2)
      spec.args (before ++ (key, r.withBrackets) :: after) := by
    rw [hargs]
    exact List.rel_append (hsame before) (.cons ⟨rfl, hrespelled⟩ (hsame after))
  have hd := (interchangeable_lockstep S).descendWithin levels
  exact interchangeable_callClause (fun v => hd v trivial) target spec hall s s (.refl s)

def userName : Respelling where
  lead := "@user".toList
  segment := "name".toList
  trail := []
  sigil := rfl
  bracket_notMem_segment := by simp [Address.isBracket]

def userSetting : Setting Unit where
  store := Store.ofRecord [
    ("@user", .object [("name", .string "Ada")]), ("@svc", .object [("echo", .probe ⟨0⟩)])]
  options := {}
  invoke := fun _ args _ => (.object args, ())

theorem respelled_argument_between :
    Clause.parse "@svc::echo[n:1,who:@user.name,tz:utc].who:Ada".toList =
      .call "@svc" ⟨"echo", [("n", "1"), ("who", "@user.name"), ("tz", "utc")], ".who", "Ada"⟩ ∧
    AlikeRuns (fun _ => True)
      (callClause userSetting (descendWithin userSetting 1) "@svc"
        ⟨"echo", [("n", "1"), ("who", "@user.name"), ("tz", "utc")], ".who", "Ada"⟩
        { probes := () })
      (callClause userSetting (descendWithin userSetting 1) "@svc"
        ⟨"echo", [("n", "1"), ("who", "@user[name]"), ("tz", "utc")], ".who", "Ada"⟩
        { probes := () }) ∧
    ∃ property matcher, Clause.parse "@svc::echo[n:1,who:@user[name],tz:utc].who:Ada".toList =
      .call "@svc" ⟨"echo", [("n", "1"), ("who", "@user[name")], property, matcher⟩ := by
  have hparse : Clause.parse "@svc::echo[n:1,who:@user.name,tz:utc].who:Ada".toList =
      .call "@svc" ⟨"echo", [("n", "1")] ++ ("who", userName.withDot) :: [("tz", "utc")], ".who",
        "Ada"⟩ := by decide +kernel
  obtain ⟨halike, property, matcher, -, -, hread⟩ := respelled_argument hparse rfl
  exact ⟨hparse, halike userSetting 1 { probes := () }, property, matcher, hread⟩

/-- A call that captures a name, and the same with the name in brackets: read as another call, it
calls the probe with null and captures nothing. -/
theorem not_alike_of_brackets : ∃ t u,
    capture userSetting (descendWithin userSetting 1)
      (Clause.parse "@svc::echo[who:@user.name].who:Ada".toList) { probes := () } =
        (.ok (some (.string "Ada")), t) ∧
      t.journal.filterMap Event.call? = [(⟨0⟩, [("who", .string "Ada")])] ∧
    capture userSetting (descendWithin userSetting 1)
      (Clause.parse "@svc::echo[who:@user[name]].who:Ada".toList) { probes := () } =
        (.ok none, u) ∧
      u.journal.filterMap Event.call? = [(⟨0⟩, [("who", .null)])] := by
  have hdot : Clause.parse "@svc::echo[who:@user.name].who:Ada".toList =
      .call "@svc" ⟨"echo", [("who", "@user.name")], ".who", "Ada"⟩ := by decide +kernel
  have hbrackets : Clause.parse "@svc::echo[who:@user[name]].who:Ada".toList =
      .call "@svc" ⟨"echo", [("who", "@user[name")], "].who", "Ada"⟩ := by decide +kernel
  rw [hdot, hbrackets]
  exact ⟨_, _, Prod.ext rfl rfl, rfl, Prod.ext rfl rfl, rfl⟩

end Resolution
end RuleTemplate
