import Faultline.Proofs.Explorer.Greeting
import Faultline.Proofs.Report

/-!
# One account of an execution

What the calls of the execution at hand were told, what the report says of them, and what is
answered about them.  The registrations of the execution are kept in order with the faults that
they got (`answered`).  An explorer is `Consistent` with them: the report and the execution list
the same calls, the report has the faults that were handed out, and the execution keeps the latest
record of each call.  Every operation keeps this, so all of them tell the same (`one_account`).
-/

namespace Faultline

/-- A registered call, with its record and the fault that was decided for it. -/
structure Registration where
  trail : Trail
  record : Json
  fault : Option Fault

namespace Registration

variable {log : List Registration}

/-- The last registration of its call. -/
def Latest (log : List Registration) (r : Registration) : Prop :=
  ∃ front back, log = front ++ r :: back ∧ ∀ s ∈ back, s.trail ≠ r.trail

/-- A registration of the call got a fault. -/
def Faulted (log : List Registration) (t : Trail) : Prop :=
  ∃ r ∈ log, r.trail = t ∧ r.fault.isSome = true

theorem not_latest_nil (r : Registration) : ¬ Latest [] r := by
  rintro ⟨front, back, hsplit, -⟩
  simp at hsplit

theorem Latest.mem {r : Registration} (h : Latest log r) : r ∈ log := by
  obtain ⟨front, back, rfl, -⟩ := h
  simp

/-- The registration that came last is the latest of its call; the others stay what they are. -/
theorem latest_concat {r s : Registration} :
    Latest (log ++ [s]) r ↔ r = s ∨ r.trail ≠ s.trail ∧ Latest log r := by
  constructor
  · rintro ⟨front, back, hsplit, hback⟩
    rcases List.eq_nil_or_concat back with rfl | ⟨back, last, rfl⟩
    · exact .inl (by simpa using (List.append_inj' hsplit rfl).2.symm)
    · rw [List.concat_eq_append, ← List.cons_append, ← List.append_assoc] at hsplit
      obtain ⟨hlog, hlast⟩ := List.append_inj' hsplit rfl
      obtain rfl : s = last := by simpa using hlast
      rw [List.concat_eq_append] at hback
      exact .inr ⟨fun heq => hback s (by simp) heq.symm, front, back, hlog,
        fun q hq => hback q (List.mem_append.2 (.inl hq))⟩
  · rintro (rfl | ⟨hne, front, back, rfl, hback⟩)
    · exact ⟨log, [], rfl, by simp⟩
    · refine ⟨front, back ++ [s], by simp, fun q hq => ?_⟩
      rcases List.mem_append.1 hq with hq | hq
      · exact hback q hq
      · rw [List.mem_singleton.1 hq]
        exact hne.symm

theorem exists_latest {r : Registration} (h : r ∈ log) :
    ∃ s, Latest log s ∧ s.trail = r.trail := by
  induction log using List.reverseRecOn with
  | nil => cases h
  | append_singleton log q ih =>
      by_cases hq : r.trail = q.trail
      · exact ⟨q, latest_concat.2 (.inl rfl), hq.symm⟩
      · have hmem : r ∈ log := by
          rcases List.mem_append.1 h with hmem | hmem
          · exact hmem
          · exact absurd (congrArg trail (List.mem_singleton.1 hmem)) hq
        obtain ⟨s, hs, htrail⟩ := ih hmem
        exact ⟨s, latest_concat.2 (.inr ⟨htrail ▸ hq, hs⟩), htrail⟩

end Registration

open Registration

/-- A member of a record is a text with a fragment in it. -/
def Json.Mentions (record : Json) (name fragment : String) : Prop :=
  ∃ s, record.get? name = some (.str s) ∧ fragment.toList <:+: s.toList

namespace Explorer

variable {x y : Explorer} {log : List Registration}

/-- The registrations of the execution at hand, after one more operation. -/
def answer (x : Explorer) (log : List Registration) : Op → List Registration
  | .register record =>
    match x.current, trailOf record, x.register record with
    | some _, .ok t, .ok (d, _) => log ++ [⟨t, record, d.fault⟩]
    | _, _, _ => log
  | .retire => []
  | _ => log

def answeredFrom (x : Explorer) (log : List Registration) : List Op → List Registration
  | [] => log
  | op :: ops => answeredFrom (x.step op) (x.answer log op) ops

/-- The registrations of the execution that is at hand after some operations, with what they were
answered. -/
def answered (x : Explorer) (ops : List Op) : List Registration :=
  x.answeredFrom [] ops

theorem answeredFrom_concat (x : Explorer) (log : List Registration) (ops : List Op) (op : Op) :
    x.answeredFrom log (ops ++ [op]) = (x.run ops).answer (x.answeredFrom log ops) op := by
  induction ops generalizing x log with
  | nil => rfl
  | cons o ops ih => exact ih (x.step o) (x.answer log o)

/-- The calls of the execution at hand, with their latest records. -/
def callsAtHand (x : Explorer) : Ledger Trail Json :=
  (x.current.map (·.calls)).getD .empty

/-- Report, execution and answers say the same of the calls at hand. -/
structure Consistent (x : Explorer) (log : List Registration) : Prop where
  keys : x.report.calls.keys = x.callsAtHand.keys
  distinct : x.callsAtHand.Distinct
  /-- The execution has the latest record of each call. -/
  latest : ∀ t record, (t, record) ∈ x.callsAtHand.entries ↔
    ∃ r, Latest log r ∧ r.trail = t ∧ record = r.record.remove Execution.recordKind
  /-- Every call got the fault that the plan has for it. -/
  planned : ∀ r ∈ log, r.fault = x.planned? r.trail
  faults : ∀ t, x.report.faults.get? t = (x.planned? t).map (·.toObject)

namespace Consistent

theorem congr (h : x.Consistent log) (hcalls : y.callsAtHand = x.callsAtHand)
    (hplan : y.plan = x.plan) (hreport : y.report.calls = x.report.calls)
    (hfaults : y.report.faults = x.report.faults) : y.Consistent log := by
  obtain ⟨hkeys, hdistinct, hlatest, hplanned, htold⟩ := h
  have hsame : ∀ t, y.planned? t = x.planned? t := fun t => by rw [planned?, planned?, hplan]
  refine ⟨?_, hcalls ▸ hdistinct, hcalls ▸ hlatest, ?_, ?_⟩
  · rw [hreport, hcalls]
    exact hkeys
  · intro r hr
    rw [hsame]
    exact hplanned r hr
  · intro t
    rw [hfaults, hsame]
    exact htold t

theorem scheduleAll (h : x.Consistent log) (os : List (Trail × Fault)) :
    (x.scheduleAll os).Consistent log := by
  refine h.congr ?_ (plan_scheduleAll x os) ?_ ?_
  · rw [callsAtHand, current_scheduleAll]
    rfl
  · rw [report_scheduleAll]
  · rw [report_scheduleAll]

/-- A registration is noted in the execution and in the report, in the same place. -/
theorem noteCall (h : x.Consistent log) {e : Execution} (he : x.current = some e) (t : Trail)
    (record : Json) : (x.noteCall e t record).Consistent (log ++ [⟨t, record, x.planned? t⟩]) := by
  have hcalls : x.callsAtHand = e.calls := by rw [callsAtHand, he]; rfl
  have hdistinct : e.calls.Distinct := hcalls ▸ h.distinct
  refine ⟨?_, Ledger.distinct_put hdistinct _ _, fun t' record' => ?_, ?_, h.faults⟩
  · show (x.report.calls.put t record).keys =
      (e.calls.put t (record.remove Execution.recordKind)).keys
    rw [Ledger.keys_put, Ledger.keys_put, h.keys, hcalls]
  · show (t', record') ∈ (e.calls.put t (record.remove Execution.recordKind)).entries ↔ _
    rw [Ledger.mem_entries_put hdistinct, ← hcalls, h.latest]
    constructor
    · rintro (⟨rfl, rfl⟩ | ⟨hne, r, hr, rfl, rfl⟩)
      · exact ⟨⟨t', record, x.planned? t'⟩, latest_concat.2 (.inl rfl), rfl, rfl⟩
      · exact ⟨r, latest_concat.2 (.inr ⟨hne, hr⟩), rfl, rfl⟩
    · rintro ⟨r, hr, rfl, rfl⟩
      rcases latest_concat.1 hr with rfl | ⟨hne, hr⟩
      · exact .inl ⟨rfl, rfl⟩
      · exact .inr ⟨hne, r, hr, rfl, rfl⟩
  · intro r hr
    rcases List.mem_append.1 hr with hr | hr
    · exact h.planned r hr
    · obtain rfl := List.mem_singleton.1 hr
      rfl

theorem noteOutcome (h : x.Consistent log) (t : Trail) (record : Json) :
    (x.noteOutcome t record).Consistent log := by
  refine h.congr ?_ rfl ?_ ?_
  · cases he : x.current with
    | none => simp [Explorer.noteOutcome, callsAtHand, he]
    | some e =>
        simp only [Explorer.noteOutcome, callsAtHand, he, Option.map_some, Option.getD_some,
          Execution.complete]
        split <;> rfl
  · simp only [Explorer.noteOutcome]
    split <;> rfl
  · simp only [Explorer.noteOutcome]
    split <;> rfl

theorem greet (h : x.Consistent log) (service : String) : (x.greet service).2.Consistent log := by
  unfold Explorer.greet
  cases he : x.current with
  | none => exact h
  | some e =>
      simp only
      split
      · exact h
      · refine h.congr ?_ rfl rfl rfl
        simp only [callsAtHand, he, Option.map_some, Option.getD_some, Execution.greet]
        split <;> rfl

theorem mem_keys_iff (h : x.Consistent log) (t : Trail) :
    t ∈ x.callsAtHand.keys ↔ ∃ r ∈ log, r.trail = t := by
  constructor
  · intro ht
    obtain ⟨⟨t, record⟩, hmem, rfl⟩ := List.mem_map.1 ht
    obtain ⟨r, hr, hrt, -⟩ := (h.latest t record).1 hmem
    exact ⟨r, hr.mem, hrt⟩
  · rintro ⟨r, hr, rfl⟩
    obtain ⟨s, hs, hst⟩ := exists_latest hr
    exact List.mem_map.2 ⟨_, (h.latest r.trail _).2 ⟨s, hs, hst, rfl⟩, rfl⟩

theorem eq_nil_of_idle (h : x.Consistent log) (he : x.current = none) : log = [] := by
  refine List.eq_nil_iff_forall_not_mem.2 fun r hr => ?_
  have hmem := (h.mem_keys_iff r.trail).2 ⟨r, hr, rfl⟩
  rw [callsAtHand, he] at hmem
  exact List.not_mem_nil hmem

/-- Before any call is registered there is only the plan to report. -/
theorem of_no_calls (hreport : x.report.calls = .empty) (hcalls : x.callsAtHand = .empty)
    (hfaults : ∀ t, x.report.faults.get? t = (x.planned? t).map (·.toObject)) :
    x.Consistent [] := by
  refine ⟨?_, ?_, fun t record => ?_, fun r hr => absurd hr List.not_mem_nil, hfaults⟩
  · rw [hreport, hcalls]
  · rw [hcalls]
    exact Ledger.distinct_empty
  · rw [hcalls]
    refine ⟨fun hmem => absurd hmem List.not_mem_nil, ?_⟩
    rintro ⟨r, hr, -⟩
    exact absurd hr (not_latest_nil r)

/-- The next execution starts without calls, and its report with the faults of its plan. -/
theorem retire (hsound : x.Sound) (h : x.Consistent log) : x.retire.Consistent [] := by
  cases he : x.current with
  | none =>
      rw [retire_of_idle he, ← h.eq_nil_of_idle he]
      exact h
  | some e =>
      unfold Explorer.retire
      rw [he]
      simp only
      split
      · exact of_no_calls rfl rfl fun t => rfl
      · next p ps hqueue =>
          refine of_no_calls rfl rfl fun t => ?_
          have hkeys : ((p.entries.map fun f => (f.1, f.2.toObject)).map (·.1)).Nodup := by
            rw [List.map_map]
            exact hsound.distinct p (by simp [known, hqueue])
          show ((Ledger.empty : Ledger Trail Json).putAll _).get? t = _
          rw [Ledger.get?_putAll _ hkeys, Ledger.find?_map, Ledger.get?_empty, Option.or_none]
          rfl

end Consistent

theorem consistent_start (analysis : Option Analysis) (lenient : Bool) :
    (start analysis lenient).Consistent [] :=
  .of_no_calls rfl rfl fun _ => rfl

/-- Every operation keeps the account, with its own registration in it. -/
theorem consistent_step (hsound : x.Sound) (h : x.Consistent log) (op : Op) :
    (x.step op).Consistent (x.answer log op) := by
  cases op with
  | register record =>
      cases ht : trailOf record with
      | error e =>
          simp only [step, answer, ht, register_of_unnamed ht]
          cases x.current <;> exact h
      | ok t =>
          cases he : x.current with
          | none =>
              simp only [step, register_of_idle ht he, answer, he]
              exact h
          | some e =>
              simp only [step, register_eq ht he, answer, ht, he]
              exact (h.noteCall he t record).scheduleAll _
  | complete record =>
      cases ht : trailOf record with
      | error e =>
          simp only [step, complete_of_unnamed ht]
          exact h
      | ok t =>
          simp only [step, complete_eq ht]
          exact (h.noteOutcome t record).scheduleAll _
  | greet service => exact h.greet service
  | retire => exact h.retire hsound
  | load document =>
      simp only [step]
      split
      · exact h.congr rfl rfl rfl rfl
      · exact h

theorem consistent_run (analysis : Option Analysis) (lenient : Bool) (ops : List Op) :
    ((start analysis lenient).run ops).Consistent ((start analysis lenient).answered ops) := by
  induction ops using List.reverseRecOn with
  | nil => exact consistent_start analysis lenient
  | append_singleton ops op ih =>
      rw [run_concat, answered, answeredFrom_concat]
      exact consistent_step (sound_run (sound_start analysis lenient) ops) ih op

/-! ### What the tests ask -/

/-- A call of the execution at hand was hit when a fault was handed out for it. -/
theorem Consistent.hits_iff (hsound : x.Sound) (h : x.Consistent log) (p : Json → Bool)
    (hp : ∀ record, p (record.remove Execution.recordKind) = p record) :
    x.asks (·.hits p) = true ↔ ∃ r, Latest log r ∧ Faulted log r.trail ∧ p r.record = true := by
  -- All registrations of a call got the same fault, so that any of them tells what is planned.
  have hfaulted : ∀ r ∈ log, (x.planned? r.trail).isSome = true ↔ Faulted log r.trail := by
    intro r hr
    constructor
    · intro hplan
      exact ⟨r, hr, rfl, h.planned r hr ▸ hplan⟩
    · rintro ⟨s, hs, hst, hfault⟩
      rw [← hst, ← h.planned s hs]
      exact hfault
  cases he : x.current with
  | none =>
      rw [h.eq_nil_of_idle he, asks, he]
      simp [not_latest_nil]
  | some e =>
      have hcalls : x.callsAtHand = e.calls := by rw [callsAtHand, he]; rfl
      have hfaults : ∀ t, e.faults.contains t = (x.planned? t).isSome := by
        intro t
        rw [hsound.carried e.faults (by rw [carried?, he]; rfl), planned?, Ledger.contains]
        cases x.plan <;> rfl
      simp only [asks, he, Option.any_some, Execution.hits, List.any_eq_true, Bool.and_eq_true,
        hfaults]
      constructor
      · rintro ⟨⟨t, record⟩, hmem, hrecord, hplan⟩
        obtain ⟨r, hr, rfl, rfl⟩ := (h.latest t record).1 (hcalls ▸ hmem)
        exact ⟨r, hr, (hfaulted r hr.mem).1 hplan, hp r.record ▸ hrecord⟩
      · rintro ⟨r, hr, hfault, hrecord⟩
        exact ⟨(r.trail, r.record.remove Execution.recordKind),
          hcalls ▸ (h.latest _ _).2 ⟨r, hr, rfl, rfl⟩, (hp r.record).trans hrecord,
          (hfaulted r hr.mem).2 hfault⟩

theorem get?_withoutKind {name : String} (hname : name ≠ Execution.recordKind) (record : Json) :
    (record.remove Execution.recordKind).get? name = record.get? name := by
  cases record with
  | obj members =>
      rw [Json.remove, Json.get?, Entries.find?_erase, if_neg hname]
      rfl
  | _ => rfl

theorem mentions_iff (name fragment : String) (record : Json) :
    Execution.mentions name fragment record = true ↔ record.Mentions name fragment := by
  unfold Execution.mentions Json.Mentions
  cases h : record.get? name with
  | none => simp
  | some member => cases member <;> simp [Json.str?, Text.occurs_iff]

theorem argumentsText?_eq_some_iff (record : Json) (text : String) :
    Execution.argumentsText? record = some text ↔
      record.path? ["args", "toString"] = some (.str text) := by
  unfold Execution.argumentsText?
  cases h : record.path? ["args", "toString"] with
  | none => simp
  | some member => cases member <;> simp [Json.str?]

theorem argumentsText?_withoutKind (record : Json) :
    Execution.argumentsText? (record.remove Execution.recordKind) =
      Execution.argumentsText? record := by
  rw [Execution.argumentsText?, Execution.argumentsText?, Json.path?, Json.path?,
    get?_withoutKind (by decide)]

theorem mentions_withoutKind {name : String} (hname : name ≠ Execution.recordKind)
    (fragment : String) (record : Json) :
    Execution.mentions name fragment (record.remove Execution.recordKind) =
      Execution.mentions name fragment record := by
  rw [Execution.mentions, Execution.mentions, get?_withoutKind hname]

/-- Decisions, report and assertions tell the same of an execution.  The report lists its calls in
their order, which are those that were registered; it has the fault of each that its registrations
were answered with; and a service, a method or a request counts as hit exactly when a call with a
fault has it in its latest record. -/
theorem one_account (analysis : Option Analysis) (lenient : Bool) (ops : List Op) :
    let x := (start analysis lenient).run ops
    let log := (start analysis lenient).answered ops
    x.report.rpcs.map (·.trail) = (x.current.map (·.calls.keys)).getD [] ∧
    (∀ t, t ∈ x.report.rpcs.map (·.trail) ↔ ∃ r ∈ log, r.trail = t) ∧
    (∀ rpc ∈ x.report.rpcs, ∀ r ∈ log, r.trail = rpc.trail →
      rpc.fault = r.fault.map (·.toObject)) ∧
    (∀ service, x.asks (·.hitsService service) = true ↔
      ∃ r, Latest log r ∧ Faulted log r.trail ∧ r.record.Mentions "module" service) ∧
    (∀ service method, x.asks (·.hitsMethod service method) = true ↔
      ∃ r, Latest log r ∧ Faulted log r.trail ∧
        r.record.Mentions "method" (service ++ "/" ++ method)) ∧
    ∀ arguments, x.asks (·.hitsRequest arguments) = true ↔
      ∃ r, Latest log r ∧ Faulted log r.trail ∧
        r.record.path? ["args", "toString"] = some (.str arguments) := by
  intro x log
  have hsound : x.Sound := sound_run (sound_start analysis lenient) ops
  have h : x.Consistent log := consistent_run analysis lenient ops
  have htrails : x.report.rpcs.map (·.trail) = x.callsAtHand.keys := by
    rw [← h.keys]
    exact Report.trails_rpcs x.report
  refine ⟨?_, fun t => ?_, ?_, fun service => ?_, fun service method => ?_, fun arguments => ?_⟩
  · rw [htrails, callsAtHand]
    cases x.current <;> rfl
  · rw [htrails]
    exact h.mem_keys_iff t
  · intro rpc hrpc r hr htrail
    rw [Report.fault_of_mem_rpcs hrpc, h.faults, ← htrail, ← h.planned r hr]
  · simp only [← mentions_iff]
    exact h.hits_iff hsound _ (mentions_withoutKind (by decide) service)
  · simp only [← mentions_iff]
    exact h.hits_iff hsound _ (mentions_withoutKind (by decide) _)
  · refine (h.hits_iff hsound (fun record => Execution.argumentsText? record == some arguments)
      fun record => by rw [argumentsText?_withoutKind]).trans ?_
    simp only [beq_iff_eq, argumentsText?_eq_some_iff]

end Explorer

end Faultline
