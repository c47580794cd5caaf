import Faultline.Proofs.Explorer.Solo
import Faultline.Proofs.Mutation.Enumeration
import Faultline.Proofs.Traffic.Agreement

/-!
# One transformer over many executions

A test of one call, whose response is mutated where that was decided.  Where the analysis has one
transformer for the call and nothing else, the first execution is free of faults, every later one
takes one step of the transformer, and exploration stops when the transformer does
(`walked_once`): the accumulator of the next step travels in the report of the last one, and no
accumulator comes twice.
-/

namespace Faultline

/-! ### Candidates -/

/-- Only the rules that apply to a call have candidates for it. -/
theorem Analysis.candidates_filter (a : Analysis) (module method : String) :
    (a.rules.filter (·.appliesTo method)).flatMap (·.candidates module method) =
      a.candidates module method := by
  rw [candidates]
  induction a.rules with
  | nil => rfl
  | cons r rs ih =>
      cases hr : r.appliesTo method with
      | true => simp [hr, ih]
      | false =>
          have hnone : r.candidates module method = [] := by simp [Rule.candidates, hr]
          simp [hr, hnone, ih]

/-- A rule that lists a transformer and nothing else. -/
structure Rule.ListsOnly (r : Rule) (k : TransformerKind) : Prop where
  exceptions : r.exceptions = []
  errors : r.errors = []
  transformers : r.transformers = [k]

/-- One rule applies to a method, and it lists one transformer. -/
def Analysis.TransformsOnly (a : Analysis) (method : String) (k : TransformerKind) : Prop :=
  ∃ r, a.rules.filter (·.appliesTo method) = [r] ∧ r.ListsOnly k

theorem Analysis.TransformsOnly.candidates {a : Analysis} {method : String} {k : TransformerKind}
    (h : a.TransformsOnly method k) (module : String) :
    a.candidates module method = [.ofTransformer k] := by
  obtain ⟨r, hr, hlists⟩ := h
  have hmem : r ∈ a.rules.filter (·.appliesTo method) := hr ▸ List.mem_singleton_self r
  have happlies : r.appliesTo method = true := by simpa using (List.mem_filter.1 hmem).2
  rw [← a.candidates_filter, hr]
  simp [Rule.candidates, happlies, hlists.exceptions, hlists.errors, hlists.transformers]

theorem Client.candidates_invocationRecord (x : Explorer) (c : Client) :
    x.candidates c.invocationRecord =
      ((x.analysis.map fun a => a.candidates c.callsite.module c.callsite.method)).getD [] := by
  have hget : c.invocationRecord.get? "module" = some (.str c.callsite.module) ∧
      c.invocationRecord.get? "method" = some (.str c.callsite.method) := by
    cases hp : c.preliminary <;>
      simp [invocationRecord, preliminaryMember, hp, Json.object, Json.get?, Entries.ofPairs,
        Entries.find?_insert]
  cases hanalysis : x.analysis <;>
    simp [Explorer.candidates, hanalysis, Rpc.textOf, hget.1, hget.2, Json.str?]

/-! ### A test of one call -/

/-- A test of one call; nothing is said about the ids that are drawn, nor about what becomes of
the per-request state between two executions. -/
structure SoloTest where
  opening : Opening
  /-- The value that a transformer is applied to. -/
  reference : Json
  type : String
  properties : List (String × Json)
  value : Option Json
  ids : Nat → String
  tidy : Nat → State → State

namespace SoloTest

/-- The world at the end of an operation. -/
def worldOf {α : Type} : EStateM.Result Violation (Session Explorer) α → World Explorer
  | .ok _ s => s.world
  | .error _ s => s.world

variable (h : Harness Explorer) (d : SoloTest)

/-- The call is mutated where that was decided, and completes as it is otherwise. -/
def call : Client.Act Explorer (Except Error (Option Json)) := do
  Client.prepare h
  Client.register h
  match (← Client.client).transformer? with
  | some _ => Client.transform h d.reference
  | none =>
    Client.completed h d.type d.properties d.value
    return .ok none

/-- One execution. -/
def execute (n : Nat) (w : World Explorer) :
    EStateM.Result Violation (Session Explorer) (Except Error (Option Json)) :=
  d.call h ⟨d.opening.client (d.ids n), w⟩

/-- The world after as many executions, each of them retired. -/
def after (w : World Explorer) : Nat → World Explorer
  | 0 => w
  | n + 1 =>
    let v := worldOf (d.execute h n (after w n))
    ⟨d.tidy n v.state, v.source.retire⟩

/-- The index that the request came with. -/
def base : Index := (d.opening.client "").incomingIndex

def key : Key := .ofCallsite d.opening.callsite h.config.digesting

/-- The trail of the call, the same in all executions. -/
def trail : Trail :=
  (d.base.pushCounted (d.key h) (d.base.counter (d.key h).rendered + 1)).trail

/-- What was reported of the call in the execution at hand. -/
def reported (w : World Explorer) (path : List String) : Option Json :=
  (w.source.report.completions.get? (d.trail h)).bind (·.path? path)

/-- What is reported of a response that was returned as it came. -/
def response : Json :=
  .object ([("__class__", .str d.type), ("value", d.value.getD .null)] ++ d.properties)

/-- An execution without faults, which completes as it is. -/
structure Completes (n : Nat) (w : World Explorer) : Prop where
  carried : w.source.carried? = some .empty
  outcome : ∃ s, d.execute h n w = .ok (.ok none) s ∧
    d.reported h s.world ["return_value"] = some d.response

/-- An execution with one mutation, which is returned and reported. -/
structure Mutates (k : TransformerKind) (r : Json) (n : Nat) (w : World Explorer) : Prop where
  carried : ∃ acc, w.source.carried? = some (.only (d.trail h) (.transformer ⟨k, acc⟩))
  outcome : ∃ s, d.execute h n w = .ok (.ok (some r)) s ∧
    d.reported h s.world ["transformer_fault", "value"] = some r

/-- The explorer is asked about the call, which can be named, and has a transformer for it and
nothing else. -/
structure Transforms (a : Analysis) (k : TransformerKind) : Prop where
  explores : h.Explores
  hasRoom : d.base.counter (d.key h).rendered ≠ 0xFFFFFFFFFFFFFFFF
  rule : a.TransformsOnly d.opening.callsite.method k

variable {h d} {a : Analysis} {k : TransformerKind} {tried waiting : List Fault}
  {f : Option Fault} {w : World Explorer}

/-! ### One execution -/

/-- The call is registered, under its trail and with the fault at hand; the explorer scheduled the
transformer from its start. -/
structure Registered (h : Harness Explorer) (d : SoloTest) (a : Analysis) (k : TransformerKind)
    (tried : List Fault) (f : Option Fault) (waiting : List Fault) (s : Session Explorer) :
    Prop where
  phase : s.client.phase = .beforeInvoked
  fault : s.client.fault = f
  trail : s.client.index.trail = d.trail h
  generatedId : ¬ s.client.generatedId < 0
  source : ∃ y : Explorer, y.Solo (some a) (d.trail h) tried f waiting ∧
    s.world.source = y.schedule (d.trail h) (.ofTransformer k)

/-- The client of an execution once it is prepared. -/
def prepared (h : Harness Explorer) (d : SoloTest) (n : Nat) (clock : Clock) : Client :=
  { d.opening.client (d.ids n) with
    phase := .prepared
    clock
    index := d.base.pushCounted (d.key h) (d.base.counter (d.key h).rendered + 1) }

theorem exists_prepared (ht : d.Transforms h a k) (hstart : w.source.AtStart) (n : Nat) :
    ∃ clock state, Client.prepare h ⟨d.opening.client (d.ids n), w⟩ =
      .ok () ⟨d.prepared h n clock, ⟨state, (w.source.greet d.opening.callsite.service).2⟩⟩ :=
  Client.exists_prepare_eq ht.explores (s := ⟨d.opening.client (d.ids n), w⟩) rfl hstart ht.hasRoom

theorem exists_registered (ht : d.Transforms h a k) (hstart : w.source.AtStart)
    (hsolo : w.source.Solo (some a) (d.trail h) tried f waiting) (n : Nat) :
    ∃ s s', Client.prepare h ⟨d.opening.client (d.ids n), w⟩ = .ok () s ∧
      Client.register h s = .ok () s' ∧ Registered h d a k tried f waiting s' := by
  obtain ⟨clock, state, hprepare⟩ := exists_prepared ht hstart n
  obtain ⟨e, he, hcount⟩ := hstart.exists_greet d.opening.callsite.service
  have hgreeted := hsolo.greet d.opening.callsite.service
  have htrail : Explorer.trailOf (d.prepared h n clock).invocationRecord = .ok (d.trail h) :=
    Client.trailOf_invocationRecord _
  have hregister := Explorer.register_eq htrail he
  have hcandidates : (w.source.greet d.opening.callsite.service).2.candidates
      (d.prepared h n clock).invocationRecord = [.ofTransformer k] := by
    rw [Client.candidates_invocationRecord, hgreeted.analysis]
    exact ht.rule.candidates _
  rw [hcandidates, hcount, hgreeted.planned?] at hregister
  have hregistered := Client.register_of_consults ht.explores.consults
    (s := ⟨d.prepared h n clock, ⟨state, (w.source.greet d.opening.callsite.service).2⟩⟩) rfl
  rw [ht.explores.source] at hregistered
  simp only [Source.explorer, hregister, Source.replyOf] at hregistered
  have hid : ¬ Int64.ofNat (0 + 1) < 0 := by decide
  exact ⟨_, _, hprepare, hregistered, rfl, rfl, rfl, hid, _,
    hgreeted.of_samePlans (Explorer.samePlans_noteCall he _ _) rfl, rfl⟩

theorem execute_eq {n : Nat} {s s' : Session Explorer}
    (hprepare : Client.prepare h ⟨d.opening.client (d.ids n), w⟩ = .ok () s)
    (hregister : Client.register h s = .ok () s') :
    d.execute h n w = match s'.client.transformer? with
      | some _ => Client.transform h d.reference s'
      | none => match Client.report h .completedOk "return_value" d.response s' with
        | .ok _ s => .ok (.ok none) s
        | .error v s => .error v s := by
  simp only [execute, call, Client.bind_apply, hprepare, hregister, Client.client_apply]
  cases s'.client.transformer? with
  | some f => rfl
  | none =>
      simp only [Client.bind_apply, Client.completed]
      rw [← response]
      cases Client.report h .completedOk "return_value" d.response s' <;> rfl

/-- The outcome of the call is reported under its trail. -/
theorem Registered.report_eq (hh : h.Explores) {s : Session Explorer}
    (hs : Registered h d a k tried f waiting s) (phase : Phase) (kind : String) (outcome : Json)
    (hphase : Phase.beforeInvoked.canBecome phase = true) (hkind : kind ≠ "execution_index") :
    Client.report h phase kind outcome s = .ok () ⟨{ s.client with phase }, { s.world with
      source := (s.world.source.noteOutcome (d.trail h)
        (s.client.completionRecord kind outcome)).scheduleAll
          ((Explorer.continuation? (s.client.completionRecord kind outcome)).toList.map
            (d.trail h, ·)) }⟩ := by
  rw [Client.report_eq hh (hs.phase ▸ hphase) hs.generatedId hkind, hs.trail]

theorem reported_scheduleAll (x : Explorer) (c : Client) {kind : String} (outcome : Json)
    (hkind : kind ≠ "instrumentation_type") (os : List (Trail × Fault)) (state : State)
    (path : List String) :
    d.reported h ⟨state,
        (x.noteOutcome (d.trail h) (c.completionRecord kind outcome)).scheduleAll os⟩
      (kind :: path) = outcome.path? path := by
  rw [reported, Explorer.get?_completions_scheduleAll x (d.trail h)
    (c.isCompletion_completionRecord outcome hkind)]
  simp [Json.path?, Client.get?_completionRecord]

/-- The first execution is free of faults and leaves the transformer to the next one. -/
theorem completes (ht : d.Transforms h a k) (hstart : w.source.AtStart)
    (hsolo : w.source.Solo (some a) (d.trail h) [] none []) (n : Nat) :
    d.Completes h n w ∧ (worldOf (d.execute h n w)).source.Solo (some a) (d.trail h) [] none
      [.ofTransformer k] := by
  obtain ⟨s, s', hprepare, hregister, hs⟩ := exists_registered ht hstart hsolo n
  obtain ⟨y, hy, hsource⟩ := hs.source
  have hscheduled := hy.schedule_of_new (g := .ofTransformer k) rfl
  rw [← hsource] at hscheduled
  have hnone : s'.client.transformer? = none := by simp [Client.transformer?, hs.fault]
  have hreport := hs.report_eq ht.explores .completedOk "return_value" d.response rfl (by decide)
  rw [Client.continuation?_completionRecord _ _ (by decide)] at hreport
  have hexecute := execute_eq hprepare hregister
  rw [hnone] at hexecute
  simp only [hreport] at hexecute
  refine ⟨⟨hsolo.carried_none, _, hexecute, ?_⟩, ?_⟩
  · rw [reported_scheduleAll _ _ _ (by decide)]
    rfl
  · rw [hexecute]
    exact hscheduled.noteOutcome _

/-- An execution with a transformer takes one step of it, and leaves the next one to another
execution. -/
theorem exists_mutated (ht : d.Transforms h a k) (hstart : w.source.AtStart)
    {g : TransformerFault}
    (hsolo : w.source.Solo (some a) (d.trail h) tried (some (.transformer g)) [])
    (hknown : (tried ++ [Fault.transformer g]).any (·.same (.ofTransformer k)) = true)
    {acc next : Json} {m : Mutated}
    (hm : Client.mutation h.registry g d.reference = .ok (acc, m))
    (hnext : (if m.hasNext = true then m.next else .ok acc) = .ok next) (n : Nat) :
    ∃ s, d.execute h n w = .ok (.ok (some m.result)) s ∧
      d.reported h s.world ["transformer_fault", "value"] = some m.result ∧
      ∃ y : Explorer, y.Solo (some a) (d.trail h) tried (some (.transformer g)) [] ∧
        s.world.source = if m.hasNext = true
          then y.schedule (d.trail h) (.transformer ⟨g.transformer, next⟩) else y := by
  obtain ⟨s, s', hprepare, hregister, hs⟩ := exists_registered ht hstart hsolo n
  obtain ⟨y, hy, hsource⟩ := hs.source
  rw [hy.schedule_of_known (by rwa [List.append_nil])] at hsource
  have hsome : s'.client.transformer? = some g := by simp [Client.transformer?, hs.fault]
  have hreport := hs.report_eq ht.explores .completedTransformed "transformer_fault"
    (Client.mutationOutcome g.transformer m.result next m.hasNext) rfl (by decide)
  rw [Client.continuation?_mutationOutcome, hsource] at hreport
  have hexecute := execute_eq hprepare hregister
  rw [hsome] at hexecute
  simp only [Client.transform_of_mutation hsome hm hnext, hreport] at hexecute
  refine ⟨_, hexecute, ?_, _, hy.noteOutcome (s'.client.completionRecord "transformer_fault"
    (Client.mutationOutcome g.transformer m.result next m.hasNext)), ?_⟩
  · rw [reported_scheduleAll _ _ _ (by decide)]
    simp [Json.path?, (Client.get?_mutationOutcome g.transformer m.result next m.hasNext).1]
  · cases m.hasNext <;> rfl

/-! ### All executions -/

section Walk

variable {tr : Transformer} {u acc next : Json} {m : Mutated} {vs : List (Json × Json)}

theorem same_transformer (k : TransformerKind) (u v : Json) :
    (Fault.transformer ⟨k, u⟩).same (.transformer ⟨k, v⟩) = u.same v := by
  have hjson : (u == v) = u.same v := rfl
  simp [Fault.same, hjson]

theorem null_same {v : Json} (hv : v.isNull = false) : Json.null.same v = false := by
  cases v with
  | null => cases hv
  | bool | int | float | str | arr | obj => rfl

/-- An execution starts whose fault has the transformer go on from an accumulator; the explorer
knows the transformer's own start, and none of the accumulators that come after this one. -/
structure Resumes (h : Harness Explorer) (d : SoloTest) (a : Analysis) (k : TransformerKind)
    (tr : Transformer) (tried : List Fault) (u acc : Json) (coming : List Json)
    (w : World Explorer) : Prop where
  atStart : w.source.AtStart
  solo : w.source.Solo (some a) (d.trail h) tried (some (.transformer ⟨k, u⟩)) []
  accumulator : (if u.isNull = true then tr.start d.reference else .ok u) = .ok acc
  known : (tried ++ [Fault.transformer ⟨k, u⟩]).any (·.same (.ofTransformer k)) = true
  new : ∀ v ∈ coming, (tried ++ [Fault.transformer ⟨k, u⟩]).any
    (·.same (.transformer ⟨k, v⟩)) = false

variable {coming : List Json}

theorem Resumes.mutates (hw : Resumes h d a k tr tried u acc coming w) (ht : d.Transforms h a k)
    (hcreate : h.registry.create k = .ok tr) (hstep : tr.step d.reference acc = .ok m)
    (hnext : (if m.hasNext = true then m.next else .ok acc) = .ok next) (n : Nat) :
    d.Mutates h k m.result n w := by
  obtain ⟨s, hexecute, hreported, -⟩ := exists_mutated ht hw.atStart hw.solo hw.known
    (Client.mutation_eq_ok_iff.2 ⟨tr, hcreate, hw.accumulator, hstep⟩) hnext n
  exact ⟨⟨u, hw.solo.carried_some⟩, s, hexecute, hreported⟩

/-- The execution with the last accumulator is the last one. -/
theorem Resumes.isRunning_retire (hw : Resumes h d a k tr tried u acc coming w)
    (ht : d.Transforms h a k) (hcreate : h.registry.create k = .ok tr) {r : Json}
    {next : Except Violation Json} (hstep : tr.step d.reference acc = .ok ⟨r, false, next⟩)
    (n : Nat) : (worldOf (d.execute h n w)).source.retire.isRunning = false := by
  obtain ⟨s, hexecute, -, y, hy, hsource⟩ := exists_mutated ht hw.atStart hw.solo hw.known
    (Client.mutation_eq_ok_iff.2 ⟨tr, hcreate, hw.accumulator, hstep⟩) rfl n
  rw [hexecute, worldOf, hsource]
  exact hy.isRunning_retire

/-- The next accumulator is taken up by the next execution. -/
theorem Resumes.retire {acc' r : Json}
    (hw : Resumes h d a k tr tried u acc (acc' :: coming) w) (ht : d.Transforms h a k)
    (hcreate : h.registry.create k = .ok tr)
    (hstep : tr.step d.reference acc = .ok ⟨r, true, .ok acc'⟩) (hnull : acc'.isNull = false)
    (hcoming : ∀ v ∈ coming, acc'.same v = false) (n : Nat) (state : State) :
    Resumes h d a k tr (tried ++ [.transformer ⟨k, u⟩]) acc' acc' coming
      ⟨state, (worldOf (d.execute h n w)).source.retire⟩ := by
  obtain ⟨s, hexecute, -, y, hy, hsource⟩ := exists_mutated ht hw.atStart hw.solo hw.known
    (Client.mutation_eq_ok_iff.2 ⟨tr, hcreate, hw.accumulator, hstep⟩) rfl n
  have hnew : (tried ++ [Fault.transformer ⟨k, u⟩]).any (·.same (.transformer ⟨k, acc'⟩)) = false :=
    hw.new acc' List.mem_cons_self
  have hqueued := hy.schedule_of_new (g := .transformer ⟨k, acc'⟩) (by rwa [List.append_nil])
  obtain ⟨hsolo, hstart⟩ := hqueued.retire
  rw [if_pos rfl] at hsource
  rw [← hsource] at hsolo hstart
  rw [hexecute]
  refine ⟨hstart, hsolo, by rw [hnull, if_neg Bool.false_ne_true], ?_, fun v hv => ?_⟩
  · rw [List.any_append, hw.known, Bool.true_or]
  · rw [List.any_append, hw.new v (List.mem_cons_of_mem _ hv), Bool.false_or, List.any_cons,
      List.any_nil, Bool.or_false, same_transformer]
    exact hcoming v hv

/-- From an execution on that resumes a transformer, every execution takes one step, up to the
last one. -/
theorem mutates_of_visits (ht : d.Transforms h a k) (hcreate : h.registry.create k = .ok tr)
    (hvisits : tr.Visits d.reference acc vs) (hapart : Transformer.Apart vs) (n : Nat)
    (hw : Resumes h d a k tr tried u acc (vs.tail.map Prod.fst) (d.after h w n)) :
    (∀ i (hi : i < vs.length), d.Mutates h k vs[i].2 (n + i) (d.after h w (n + i))) ∧
      (d.after h w (n + vs.length)).source.isRunning = false := by
  induction hvisits generalizing n tried u with
  | @last acc r next hstep =>
      refine ⟨fun i hi => ?_, hw.isRunning_retire ht hcreate hstep n⟩
      obtain rfl : i = 0 := by simpa using hi
      exact hw.mutates ht hcreate hstep rfl n
  | @more acc acc' r vs hstep hrest ih =>
      obtain ⟨r', vs, rfl⟩ := hrest.exists_cons
      have hrestApart := hapart.tail
      have hcoming : ∀ v ∈ vs.map Prod.fst, acc'.same v = false := by
        intro v hv
        obtain ⟨v, hmem, rfl⟩ := List.mem_map.1 hv
        exact (List.pairwise_cons.1 hrestApart.different).1 v hmem
      have hnull : acc'.isNull = false := hrestApart.notNull _ List.mem_cons_self
      have hresumes := Resumes.retire hw ht hcreate hstep hnull hcoming n
        (d.tidy n (worldOf (d.execute h n (d.after h w n))).state)
      obtain ⟨hmutates, hends⟩ := ih hrestApart (n + 1) hresumes
      constructor
      · intro i hi
        cases i with
        | zero => exact hw.mutates ht hcreate hstep rfl n
        | succ i =>
            have hi := hmutates i (Nat.lt_of_succ_lt_succ hi)
            rwa [Nat.add_right_comm] at hi
      · rwa [Nat.add_right_comm] at hends

/-- The second execution has the transformer go on from its start. -/
theorem resumes_start (ht : d.Transforms h a k) (hstart : tr.start d.reference = .ok acc)
    (hatStart : w.source.AtStart) (hsolo : w.source.Solo (some a) (d.trail h) [] none [])
    (hcoming : ∀ v ∈ coming, v.isNull = false) (n : Nat) (state : State) :
    Resumes h d a k tr [] .null acc coming
      ⟨state, (worldOf (d.execute h n w)).source.retire⟩ := by
  obtain ⟨hretired, hretiredStart⟩ := (completes ht hatStart hsolo n).2.retire
  refine ⟨hretiredStart, hretired, hstart, ?_, fun v hv => ?_⟩
  · rw [List.nil_append, List.any_cons, Fault.ofTransformer, Fault.same_refl, Bool.true_or]
  · rw [List.nil_append, List.any_cons, List.any_nil, Bool.or_false, same_transformer]
    exact null_same (hcoming v hv)

/-- A transformer is walked once, one step in every execution after the first one.  Texts, arrays
and catalogs are no longer than a word can count. -/
theorem walked_once (ht : d.Transforms h a k) (hcreate : h.registry.create k = .ok tr)
    (hstart : tr.start d.reference = .ok acc)
    (hcatalog : h.registry.exceptions.length ≤ 0x10000000000000000)
    (hextent : Transformer.extent d.reference ≤ 0x10000000000000000)
    (state : State) (lenient : Bool) :
    ∃ rs, (Transformer.Instance.fresh tr).Drives d.reference acc rs ∧
      d.Completes h 0 (d.after h ⟨state, .start (some a) lenient⟩ 0) ∧
      (∀ i (hi : i < rs.length),
        d.Mutates h k rs[i] (i + 1) (d.after h ⟨state, .start (some a) lenient⟩ (i + 1))) ∧
      (d.after h ⟨state, .start (some a) lenient⟩ (rs.length + 1)).source.isRunning = false := by
  obtain rfl := Registry.eq_make_of_create hcreate
  obtain ⟨vs, hvisits, hapart⟩ := Transformer.exists_visits hcatalog hextent hstart
  have hatStart := Explorer.atStart_start (some a) lenient
  have hsolo := Explorer.solo_start (some a) lenient (d.trail h)
  have hcoming : ∀ v ∈ vs.tail.map Prod.fst, v.isNull = false := by
    intro v hv
    obtain ⟨v, hmem, rfl⟩ := List.mem_map.1 hv
    exact hapart.notNull v (List.mem_of_mem_tail hmem)
  obtain ⟨hmutates, hends⟩ := mutates_of_visits ht hcreate hvisits hapart 1
    (w := ⟨state, .start (some a) lenient⟩) (resumes_start ht hstart hatStart hsolo hcoming 0 _)
  refine ⟨_, hvisits.drives none, (completes ht hatStart hsolo 0).1, fun i hi => ?_, ?_⟩
  · have hi := hmutates i (by simpa using hi)
    rw [Nat.add_comm] at hi
    simpa using hi
  · rwa [List.length_map, Nat.add_comm]

end Walk

/-- A test of one call whose response is a text of two characters. -/
def twoChars : SoloTest where
  opening := ⟨⟨"a", "b", "m", .empty, "f", 1, ""⟩, { requestId := some "r" }, none, none, none⟩
  reference := .str "ab"
  type := "String"
  properties := []
  value := some (.str "ab")
  ids n := Nat.repr n
  tidy _ s := s

/-- A rule that mutates texts. -/
def textRule : Rule :=
  ⟨"texts", .atom (.literal ['m']), [], [], [.text]⟩

theorem walked_once_twoChars :
    twoChars.Transforms (Traffic.plainHarness true) ⟨[textRule]⟩ .text ∧
    (Traffic.plainHarness true).registry.create .text = .ok (.make [] .text) ∧
    (Transformer.make [] .text).start (.str "ab") =
      .ok ((Codec.accumulator .text .word).write ⟨"ab", 0⟩) ∧
    Transformer.extent (.str "ab") ≤ 0x10000000000000000 ∧
    ∃ rs, (Transformer.Instance.fresh (.make [] .text)).Drives (.str "ab")
        ((Codec.accumulator .text .word).write ⟨"ab", 0⟩) rs ∧
      twoChars.Completes (Traffic.plainHarness true) 0
        (twoChars.after (Traffic.plainHarness true) ⟨.empty, .start (some ⟨[textRule]⟩) false⟩ 0) ∧
      (∀ i (hi : i < rs.length), twoChars.Mutates (Traffic.plainHarness true) .text rs[i] (i + 1)
        (twoChars.after (Traffic.plainHarness true) ⟨.empty, .start (some ⟨[textRule]⟩) false⟩
          (i + 1))) ∧
      (twoChars.after (Traffic.plainHarness true) ⟨.empty, .start (some ⟨[textRule]⟩) false⟩
        (rs.length + 1)).source.isRunning = false := by
  have hroom : twoChars.base.counter (twoChars.key (Traffic.plainHarness true)).rendered ≠
      0xFFFFFFFFFFFFFFFF := show (0 : UInt64) ≠ _ by decide
  have ht : twoChars.Transforms (Traffic.plainHarness true) ⟨[textRule]⟩ .text :=
    ⟨⟨rfl, rfl⟩, hroom, textRule, rfl, rfl, rfl, rfl⟩
  have hextent : Transformer.extent (.str "ab") ≤ 0x10000000000000000 := by decide
  exact ⟨ht, rfl, rfl, hextent, walked_once ht rfl rfl (by decide) hextent .empty false⟩

end SoloTest

end Faultline
