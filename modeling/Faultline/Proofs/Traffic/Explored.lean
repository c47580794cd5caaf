import Faultline.Proofs.Client
import Faultline.Proofs.Explorer.Greeting
import Faultline.Proofs.Index

/-!
# An explorer behind a harness

What a client's questions come to when the harness asks an explorer: the greeting and the
registration never fail while an execution is at hand, and the fault is the one that the plan has
for the trail of the call.  The report of an outcome is noted under the same trail, and only a
mutation goes on from it.
-/

namespace Faultline

/-- The harness asks an explorer. -/
structure Harness.Explores (h : Harness Explorer) : Prop where
  source : h.source = .explorer
  consults : h.consults = true

variable {h : Harness Explorer}

theorem Harness.Explores.greeting (hh : h.Explores) (service : String) (w : World Explorer) :
    h.greeting service w =
      .ok ((w.source.greet service).1, { w with source := (w.source.greet service).2 }) := by
  rw [Harness.greeting, if_pos hh.consults, hh.source]
  rfl

namespace Client

theorem get?_invocationRecord (c : Client) :
    c.invocationRecord.get? "execution_index" = some (.str c.index.text) := by
  cases hp : c.preliminary <;>
    simp [invocationRecord, preliminaryMember, hp, Json.object, Json.get?, Entries.ofPairs,
      Entries.find?_insert]

theorem trailOf_invocationRecord (c : Client) :
    Explorer.trailOf c.invocationRecord = .ok c.index.trail := by
  simp [Explorer.trailOf, get?_invocationRecord, Json.str?, Index.text, Trail.parse?_text]

end Client

/-- The registration of a client's call never fails. -/
theorem Explorer.exists_register (x : Explorer) (c : Client) :
    ∃ d y, x.register c.invocationRecord = .ok (d, y) := by
  have ht := Client.trailOf_invocationRecord c
  cases he : x.current with
  | none => exact ⟨_, _, Explorer.register_of_idle ht he⟩
  | some e => exact ⟨_, _, Explorer.register_eq ht he⟩

namespace Client

/-- A call is registered with the execution at hand and gets the fault planned for it. -/
theorem exists_register_eq (hh : h.Explores) {s : Session Explorer}
    (hs : s.client.phase.canBecome .beforeInvoked = true) (hrun : s.world.source.isRunning = true) :
    ∃ id x, register h s = .ok () ⟨{ s.client with
        phase := .beforeInvoked, generatedId := id
        fault := s.world.source.planned? s.client.index.trail }, { s.world with source := x }⟩ ∧
      x.carried? = s.world.source.carried? ∧ x.plan = s.world.source.plan ∧
      ∀ service, x.greets service = s.world.source.greets service := by
  obtain ⟨id, x, hx, hrest⟩ :=
    Explorer.exists_register_eq hrun (trailOf_invocationRecord s.client)
  refine ⟨id, x, ?_, hrest⟩
  rw [register_of_consults hh.consults hs, hh.source]
  simp only [Source.explorer, hx, Source.replyOf]

/-! ### Outcomes -/

section Outcome

variable (c : Client) (kind : String) (outcome : Json)

/-- What the record of a completion says besides the outcome. -/
def completionFacts (c : Client) : Json :=
  .object ([("instrumentation_type", .str "invocation_complete"),
    ("generated_id", .ofInt64 c.generatedId), ("execution_index", .str c.index.text),
    ("vclock", c.clock.toJson), ("module", .str c.callsite.module),
    ("method", .str c.callsite.method)] ++ c.preliminaryMember)

theorem get?_completionFacts :
    c.completionFacts.get? "instrumentation_type" = some (.str "invocation_complete") ∧
    c.completionFacts.get? "execution_index" = some (.str c.index.text) ∧
    c.completionFacts.get? "transformer_fault" = none := by
  cases hp : c.preliminary <;>
    simp [completionFacts, preliminaryMember, hp, Json.object, Json.get?, Entries.ofPairs,
      Entries.find?_insert, Entries.find?_nil]

/-- The outcome stands under its kind, whatever else is in the record. -/
theorem get?_completionRecord (k : String) : (c.completionRecord kind outcome).get? k =
    if k = kind then some outcome else c.completionFacts.get? k := by
  rw [completionRecord, Json.object, Entries.ofPairs, List.foldl_append]
  exact Entries.find?_insert kind k outcome _

variable {kind}

theorem trailOf_completionRecord (h : kind ≠ "execution_index") :
    Explorer.trailOf (c.completionRecord kind outcome) = .ok c.index.trail := by
  simp [Explorer.trailOf, get?_completionRecord, h.symm, c.get?_completionFacts.2.1, Json.str?,
    Index.text, Trail.parse?_text]

theorem isCompletion_completionRecord (h : kind ≠ "instrumentation_type") :
    Explorer.isCompletion (c.completionRecord kind outcome) = true := by
  simp [Explorer.isCompletion, Execution.recordKind, get?_completionRecord, h.symm,
    c.get?_completionFacts.1, Json.str?]

/-- Nothing goes on from an outcome that is no mutation. -/
theorem continuation?_completionRecord (h : kind ≠ "transformer_fault") :
    Explorer.continuation? (c.completionRecord kind outcome) = none := by
  simp [Explorer.continuation?, get?_completionRecord, h.symm, c.get?_completionFacts.2.2]

/-- What is reported of a mutation. -/
def mutationOutcome (kind : TransformerKind) (value next : Json) (hasNext : Bool) : Json :=
  .object [("value", value), ("accumulator", next), ("type", kind.toJson),
    ("has_next", .bool hasNext)]

theorem get?_mutationOutcome (kind : TransformerKind) (value next : Json) (hasNext : Bool) :
    (mutationOutcome kind value next hasNext).get? "value" = some value ∧
    (mutationOutcome kind value next hasNext).get? "accumulator" = some next ∧
    (mutationOutcome kind value next hasNext).get? "type" = some kind.toJson ∧
    (mutationOutcome kind value next hasNext).get? "has_next" = some (.bool hasNext) := by
  simp [mutationOutcome, Json.object, Json.get?, Entries.ofPairs, Entries.find?_insert]

/-- The next mutation goes on from a mutation that has one. -/
theorem continuation?_mutationOutcome (kind : TransformerKind) (value next : Json)
    (hasNext : Bool) : Explorer.continuation? (c.completionRecord "transformer_fault"
      (mutationOutcome kind value next hasNext)) =
      if hasNext then some (.transformer ⟨kind, next⟩) else none := by
  obtain ⟨-, hnext, htype, hhasNext⟩ := get?_mutationOutcome kind value next hasNext
  have hkind : TransformerKind.ofJson? kind.toJson = some kind :=
    TransformerKind.ofName?_name kind
  have hget : (c.completionRecord "transformer_fault"
      (mutationOutcome kind value next hasNext)).get? "transformer_fault" =
        some (mutationOutcome kind value next hasNext) := by
    rw [get?_completionRecord, if_pos rfl]
  cases hasNext <;>
    simp [Explorer.continuation?, hget, hnext, htype, hhasNext, hkind, Json.bool?, guard]

end Outcome

/-! ### Mutations -/

/-- The parts of a mutation. -/
theorem mutation_eq_ok_iff {r : Registry} {f : TransformerFault} {reference acc : Json}
    {m : Mutated} :
    mutation r f reference = .ok (acc, m) ↔ ∃ t, r.create f.transformer = .ok t ∧
      (if f.accumulator.isNull then t.start reference else .ok f.accumulator) = .ok acc ∧
      t.step reference acc = .ok m := by
  simp only [mutation, bind_eq_ok]
  refine exists_congr fun t => and_congr_right fun _ => ?_
  cases f.accumulator.isNull with
  | true => simp [bind_eq_ok, pure, Except.pure]
  | false =>
      have hsame : (t.step reference f.accumulator = .ok m ∧ f.accumulator = acc) ↔
          f.accumulator = acc ∧ t.step reference acc = .ok m :=
        and_comm.trans (and_congr_right fun hacc => by rw [hacc])
      simpa [bind_eq_ok, pure, Except.pure] using hsame

/-- Where a mutation fails: there is no transformer, it cannot start, or it cannot take the
accumulator. -/
theorem mutation_eq_error_iff {r : Registry} {f : TransformerFault} {reference : Json} {e : Error} :
    mutation r f reference = .error e ↔ r.create f.transformer = .error e ∨
      ∃ t, r.create f.transformer = .ok t ∧
        ((if f.accumulator.isNull then t.start reference else .ok f.accumulator) = .error e ∨
          ∃ acc, (if f.accumulator.isNull then t.start reference else .ok f.accumulator) =
            .ok acc ∧ t.step reference acc = .error e) := by
  simp only [mutation, bind_eq_error]
  refine or_congr_right (exists_congr fun t => and_congr_right fun _ => ?_)
  cases f.accumulator.isNull <;> simp [bind_eq_error, pure, Except.pure]

/-- Where there is no mutation, nothing happens. -/
theorem transform_of_refused {σ : Type} {h : Harness σ} {s : Session σ} {f : TransformerFault}
    (hf : s.client.transformer? = some f) {reference : Json} {e : Error}
    (hm : mutation h.registry f reference = .error e) :
    transform h reference s = .ok (.error e) s := by
  simp only [transform, bind_apply, client_apply, hf, hm]
  rfl

/-- A mutation that has one after it, if it says so, is returned and reported. -/
theorem transform_of_mutation {σ : Type} {h : Harness σ} {s : Session σ} {f : TransformerFault}
    (hf : s.client.transformer? = some f) {reference acc next : Json} {m : Mutated}
    (hm : mutation h.registry f reference = .ok (acc, m))
    (hnext : (if m.hasNext = true then m.next else .ok acc) = .ok next) :
    transform h reference s = match report h .completedTransformed "transformer_fault"
        (mutationOutcome f.transformer m.result next m.hasNext) s with
      | .ok _ s => .ok (.ok (some m.result)) s
      | .error v s => .error v s := by
  have htransform : transform h reference s =
      (mutated h f.transformer m.result next m.hasNext >>=
        fun _ => pure (.ok (some m.result))) s := by
    simp only [transform, bind_apply, client_apply, hf, hm]
    cases hmore : m.hasNext with
    | true =>
        rw [hmore, if_pos rfl] at hnext
        simp only [hnext, if_true, bind_apply, pure_apply]
    | false =>
        rw [hmore, if_neg Bool.false_ne_true] at hnext
        obtain rfl := Except.ok.inj hnext
        simp only [Bool.false_eq_true, if_false, bind_apply, pure_apply]
  rw [htransform, bind_apply, mutated, ← mutationOutcome]
  cases report h .completedTransformed "transformer_fault"
    (mutationOutcome f.transformer m.result next m.hasNext) s <;> rfl

/-- A call at the start of an execution is named from the index that its request came with. -/
theorem exists_prepare_eq (hh : h.Explores) {s : Session Explorer}
    (hs : s.client.phase.canBecome .prepared = true) (hstart : s.world.source.AtStart)
    (hroom : s.client.incomingIndex.counter
      (Key.ofCallsite s.client.callsite h.config.digesting).rendered ≠ 0xFFFFFFFFFFFFFFFF) :
    ∃ clock state, prepare h s = .ok () ⟨{ s.client with
      phase := .prepared, clock
      index := s.client.incomingIndex.pushCounted
        (Key.ofCallsite s.client.callsite h.config.digesting)
        (s.client.incomingIndex.counter
          (Key.ofCallsite s.client.callsite h.config.digesting).rendered + 1) },
      ⟨state, (s.world.source.greet s.client.callsite.service).2⟩⟩ := by
  obtain ⟨after, hname, -, -⟩ := Index.exists_name hroom
  have hfirst : (s.world.source.greet s.client.callsite.service).1 = true := by
    rw [Explorer.greet_fst hstart.isRunning, hstart.greets]
    rfl
  rw [prepare_of_created h hs]
  simp only [hh.greeting, hfirst, State.startOver, if_true, advance_eq]
  rcases hr : nameIn h _ (s.client.arrive
    (s.world.state.clearService s.client.callsite.service)).2 with ⟨named, state⟩
  have hnamed := congrArg Prod.fst hr
  rw [nameIn_fst, index?_arrive, if_pos ⟨rfl, rfl⟩, State.index?_clearService, if_pos rfl,
    Option.getD_none, Option.getD_some, nameFrom, hname] at hnamed
  obtain rfl : _ = named := hnamed
  exact ⟨_, _, rfl⟩

/-- The outcome of a call that was registered is reported to the explorer. -/
theorem report_eq (hh : h.Explores) {s : Session Explorer} {phase : Phase} {kind : String}
    {outcome : Json} (hs : s.client.phase.canBecome phase = true)
    (hid : ¬ s.client.generatedId < 0) (hkind : kind ≠ "execution_index") :
    report h phase kind outcome s = .ok () ⟨{ s.client with phase }, { s.world with
      source := (s.world.source.noteOutcome s.client.index.trail
        (s.client.completionRecord kind outcome)).scheduleAll
          ((Explorer.continuation? (s.client.completionRecord kind outcome)).toList.map
            (s.client.index.trail, ·)) }⟩ := by
  have hcomplete := Explorer.complete_eq (x := s.world.source)
    (trailOf_completionRecord s.client outcome hkind)
  rw [report_of_consults hh.consults kind outcome hs hid, hh.source]
  simp only [Source.explorer, hcomplete, Source.replyOf]

end Client

end Faultline
