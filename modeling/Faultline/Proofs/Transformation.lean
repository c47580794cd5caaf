import Faultline.Proofs.Dialogue
import Faultline.Proofs.Mutation.Devices

/-!
# Faults that transform a response

The accumulator of such a fault comes over the wire, and may be no accumulator at all.  A client
either applies the fault and reports what it did, or refuses it and is left as it was
(`Client.transform_all_or_nothing`).  What can fail does so before the phase changes, and the last
step, which asks where the next mutation starts, cannot fail.
-/

namespace Faultline

variable {σ : Type}

/-- A source answers reports with a value or an error, and does not break off. -/
def Source.AnswersReports (source : Source σ) : Prop :=
  ∀ record update x, ∃ reply, source.report record update x = .ok reply

/-- A completion tells of a mutation and of where the next one starts. -/
def Tells (record : Json) (kind : TransformerKind) (m : Mutated) (next : Json) : Prop :=
  ∃ outcome, record.get? "transformer_fault" = some outcome ∧
    outcome.get? "value" = some m.result ∧ outcome.get? "type" = some kind.toJson ∧
    outcome.get? "has_next" = some (.bool m.hasNext) ∧ outcome.get? "accumulator" = some next

namespace Client

/-- What becomes of a call whose fault transforms a response. -/
inductive Transforms (h : Harness σ) (s : Session σ) (f : TransformerFault) (reference : Json) :
    Prop
  /-- There is no transformer, or it cannot start, or it cannot take the fault's accumulator.  Then
  nothing happens, nothing is heard, and every outcome can still be reported. -/
  | refused {e : Error}
      (failed : h.registry.create f.transformer = .error e ∨
        ∃ t, h.registry.create f.transformer = .ok t ∧
          ((if f.accumulator.isNull then t.start reference else .ok f.accumulator) = .error e ∨
            ∃ acc, (if f.accumulator.isNull then t.start reference else .ok f.accumulator) =
              .ok acc ∧ t.step reference acc = .error e))
      (same : transform h reference s = .ok (.error e) s)
      (unheard : (Operation.transform reference).notes h s = [])
      (reportable : ∀ (phase : Phase) (kind : String) (outcome : Json), phase.isTerminal = true →
        ∃ w, report h phase kind outcome s = .ok () ⟨{ s.client with phase }, w⟩)
  /-- The mutation at the fault's accumulator, or the first one, is returned and told once. -/
  | applied {t : Transformer} {acc next : Json} {m : Mutated} {w : World σ}
      (created : h.registry.create f.transformer = .ok t)
      (begun : (if f.accumulator.isNull then t.start reference else .ok f.accumulator) = .ok acc)
      (stepped : t.step reference acc = .ok m)
      (follows : if m.hasNext then m.next = .ok next else next = acc)
      (returned : transform h reference s =
        .ok (.ok (some m.result)) ⟨{ s.client with phase := .completedTransformed }, w⟩)
      (heard : if s.client.generatedId < 0 ∨ h.consults = false
        then (Operation.transform reference).notes h s = []
        else ∃ record, (Operation.transform reference).notes h s = [.report record false] ∧
          Tells record f.transformer m next)

/-! ### Reports -/

/-- An outcome can be reported to a source that answers. -/
theorem exists_report {h : Harness σ} (hanswers : h.source.AnswersReports) {s : Session σ}
    {phase : Phase} (hphase : s.client.phase.canBecome phase = true) (kind : String)
    (outcome : Json) :
    ∃ w, report h phase kind outcome s = .ok () ⟨{ s.client with phase }, w⟩ := by
  by_cases hskip : s.client.generatedId < 0 ∨ h.consults = false
  · exact ⟨s.world, report_of_silent kind outcome hphase hskip⟩
  · obtain ⟨hid, hconsults⟩ := not_or.1 hskip
    rw [Bool.not_eq_false] at hconsults
    obtain ⟨⟨r, x⟩, hreply⟩ :=
      hanswers (s.client.completionRecord kind outcome) false s.world.source
    refine ⟨{ s.world with source := x }, ?_⟩
    rw [report_of_consults hconsults kind outcome hphase hid, hreply]

theorem tells_completionRecord (c : Client) (kind : TransformerKind) (m : Mutated) (next : Json) :
    Tells (c.completionRecord "transformer_fault" (mutationOutcome kind m.result next m.hasNext))
      kind m next := by
  obtain ⟨hvalue, hnext, htype, hhasNext⟩ := get?_mutationOutcome kind m.result next m.hasNext
  exact ⟨_, by rw [get?_completionRecord, if_pos rfl], hvalue, htype, hhasNext, hnext⟩

/-! ### Mutations -/

/-- A mutation that has one after it can say where that one starts. -/
theorem exists_next {r : Registry} {f : TransformerFault} {reference acc : Json} {m : Mutated}
    (hexceptions : r.exceptions.length < 0x10000000000000000)
    (hextent : Transformer.extent reference < 0x10000000000000000)
    (hm : mutation r f reference = .ok (acc, m)) :
    ∃ next, (if m.hasNext = true then m.next else .ok acc) = .ok next := by
  obtain ⟨t, hcreate, -, hstep⟩ := mutation_eq_ok_iff.1 hm
  obtain rfl := Registry.eq_make_of_create hcreate
  cases hmore : m.hasNext with
  | false => exact ⟨acc, rfl⟩
  | true => exact (Device.sound_make .overflow hexceptions hextent).goesOn hstep hmore

theorem canBecome_of_beforeInvoked {p q : Phase} (hp : p = .beforeInvoked)
    (hq : q.isTerminal = true) : p.canBecome q = true := by
  subst hp
  revert hq
  cases q <;> decide

/-- A fault that transforms a response is applied and reported, or the call is left as it was. -/
theorem transform_all_or_nothing (beyond : Violation) {h : Harness σ} {s : Session σ}
    {f : TransformerFault} {reference : Json} (hphase : s.client.phase = .beforeInvoked)
    (hfault : s.client.fault = some (.transformer f)) (hanswers : h.source.AnswersReports)
    (hexceptions : h.registry.exceptions.length < 0x10000000000000000)
    (hextent : Transformer.extent reference < 0x10000000000000000) :
    (∀ memory acc, (Device.guarded beyond h.registry.exceptions f.transformer).answer memory
        reference acc =
      .ok ((Transformer.make h.registry.exceptions f.transformer).step reference acc)) ∧
    Transforms h s f reference := by
  have hsound := Device.sound_make beyond hexceptions hextent (k := f.transformer)
  refine ⟨hsound.guarded, ?_⟩
  have hf : s.client.transformer? = some f := by simp [transformer?, hfault]
  have hf' : s.unheard.client.transformer? = some f := hf
  have hnotes : (Operation.transform reference).notes h s =
      (after (transform h.overheard reference) s.unheard).world.source.2 := by
    rw [Operation.notes, Operation.act, after_bind_pure]
  cases hm : mutation h.registry f reference with
  | error e =>
      refine .refused (mutation_eq_error_iff.1 hm) (transform_of_refused hf hm) ?_
        fun phase kind outcome hterminal =>
          exists_report hanswers (canBecome_of_beforeInvoked hphase hterminal) kind outcome
      rw [hnotes, after_of_ok (transform_of_refused (h := h.overheard) hf' hm)]
      rfl
  | ok mutation =>
      obtain ⟨acc, m⟩ := mutation
      obtain ⟨t, hcreate, hbegun, hstep⟩ := mutation_eq_ok_iff.1 hm
      obtain ⟨next, hnext⟩ := exists_next hexceptions hextent hm
      have hterminal := canBecome_of_beforeInvoked hphase
        (show Phase.completedTransformed.isTerminal = true from rfl)
      obtain ⟨w, hreport⟩ := exists_report hanswers hterminal "transformer_fault"
        (mutationOutcome f.transformer m.result next m.hasNext)
      obtain ⟨s', hreport', hheard⟩ := exists_report_overheard (h := h) hterminal
        "transformer_fault" (mutationOutcome f.transformer m.result next m.hasNext)
      have hfollows : if m.hasNext then m.next = .ok next else next = acc := by
        split at hnext
        · next hmore => rwa [if_pos hmore]
        · next hmore =>
          rw [if_neg hmore]
          exact (Except.ok.inj hnext).symm
      have hreturned : transform h reference s =
          .ok (.ok (some m.result)) ⟨{ s.client with phase := .completedTransformed }, w⟩ := by
        rw [transform_of_mutation hf hm hnext, hreport]
      have hgiven := transform_of_mutation (h := h.overheard) hf' hm hnext
      rw [hreport'] at hgiven
      rw [← after_of_ok hgiven, ← hnotes] at hheard
      refine .applied hcreate hbegun hstep hfollows hreturned ?_
      split
      · next hskip => rwa [if_pos hskip] at hheard
      · next hskip =>
        rw [if_neg hskip] at hheard
        exact ⟨_, hheard, tells_completionRecord s.client f.transformer m next⟩

/-- A call that was registered, and whose fault comes with an accumulator. -/
def faultySession (acc : Json) : Session Script :=
  ⟨{ make ⟨"a", "b", "m", .empty, "f", 1, ""⟩ {} "q" with
      phase := .beforeInvoked, generatedId := 1, fault := some (.transformer ⟨.text, acc⟩) },
    ⟨.empty, ⟨[], [], [], 1⟩⟩⟩

/-- Without an accumulator the first character is shifted; a truth value is no accumulator. -/
theorem transform_all_or_nothing_text :
    let h : Harness Script := .plain .scripted
    let s := faultySession .null
    let s' := faultySession (.bool true)
    (s.client.phase = .beforeInvoked ∧ s.client.fault = some (.transformer ⟨.text, .null⟩) ∧
        h.source.AnswersReports ∧ Transforms h s ⟨.text, .null⟩ (.str "ab") ∧
        ∃ w, transform h (.str "ab") s =
          .ok (.ok (some (.str "\u0083b"))) ⟨{ s.client with phase := .completedTransformed }, w⟩) ∧
      s'.client.phase = .beforeInvoked ∧
        s'.client.fault = some (.transformer ⟨.text, .bool true⟩) ∧
        Transforms h s' ⟨.text, .bool true⟩ (.str "ab") ∧
        transform h (.str "ab") s' = .ok (.error (.transformer .unreadableAccumulator)) s' := by
  intro h s s'
  have hanswers : h.source.AnswersReports := fun _ _ _ => ⟨_, rfl⟩
  have happlied : Transforms h s ⟨.text, .null⟩ (.str "ab") :=
    (transform_all_or_nothing .overflow rfl rfl hanswers (by decide) (by decide)).2
  have hrefused : Transforms h s' ⟨.text, .bool true⟩ (.str "ab") :=
    (transform_all_or_nothing .overflow rfl rfl hanswers (by decide) (by decide)).2
  exact ⟨⟨rfl, rfl, hanswers, happlied, _, rfl⟩, rfl, rfl, hrefused, rfl⟩

end Client

end Faultline
