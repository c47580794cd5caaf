import Faultline.Explorer
import Faultline.Proofs.Plan
import Mathlib

/-!
# Runs of an explorer

An explorer under any sequence of operations.  `step_eq` says once what an operation other than
the retirement can do: it changes nothing of the plans but the queue, and it schedules what it
offers.  `mem_explored_retire` and its companions say what the retirement does.  From these come
the invariants of a run: no plan is ever forgotten (`mem_known_run`), and the plans are `Sound`.
-/

namespace Faultline

namespace Explorer

/-- An operation on an explorer. -/
inductive Op where
  | register (record : Json)
  | complete (record : Json)
  | greet (service : String)
  | retire
  /-- An analysis is taken from a document. -/
  | load (document : Json)

/-- What an operation makes of an explorer; one that fails leaves it as it is. -/
def step (x : Explorer) : Op → Explorer
  | .register record =>
    match x.register record with
    | .ok (_, y) => y
    | .error _ => x
  | .complete record =>
    match x.complete record with
    | .ok (_, y) => y
    | .error _ => x
  | .greet service => (x.greet service).2
  | .retire => x.retire
  | .load document =>
    match Analysis.ofJson document with
    | .ok a => { x with analysis := some a }
    | .error _ => x

def run (x : Explorer) (ops : List Op) : Explorer :=
  ops.foldl step x

@[simp] theorem run_nil (x : Explorer) : x.run [] = x := rfl

theorem run_append (x : Explorer) (ops ops' : List Op) :
    x.run (ops ++ ops') = (x.run ops).run ops' :=
  List.foldl_append

@[simp] theorem run_concat (x : Explorer) (ops : List Op) (op : Op) :
    x.run (ops ++ [op]) = (x.run ops).step op := by
  rw [run_append]
  rfl

/-- The faults of the execution at hand. -/
def carried? (x : Explorer) : Option Plan :=
  x.current.map (·.faults)

/-- Every plan that was carried out, is carried out or is queued. -/
def known (x : Explorer) : List Plan :=
  x.explored ++ x.plan.toList ++ x.queue

theorem knows_iff (x : Explorer) (p : Plan) :
    x.knows p = true ↔ ∃ q ∈ x.known, q.same p = true := by
  cases hplan : x.plan <;> simp [knows, known, hplan, or_and_right, exists_or, or_assoc, or_comm]

/-- The faults that an operation offers, each for a call: a registration those that the analysis has
for the module and the method of the call, a completion the mutation that follows. -/
def offers (x : Explorer) : Op → List (Trail × Fault)
  | .register record =>
    match trailOf record, x.analysis with
    | .ok t, some a =>
      (a.candidates (Rpc.textOf "module" record) (Rpc.textOf "method" record)).map (t, ·)
    | _, _ => []
  | .complete record =>
    match trailOf record with
    | .ok t => (continuation? record).toList.map (t, ·)
    | .error _ => []
  | _ => []

theorem offers_register (x : Explorer) {record : Json} {t : Trail} (ht : trailOf record = .ok t) :
    x.offers (.register record) = (x.candidates record).map (t, ·) := by
  cases hanalysis : x.analysis <;> simp [offers, candidates, ht, hanalysis]

/-- A call of a method that a rule of `failing` is about. -/
def ruledCall : Json :=
  .object [("execution_index", .str "[[\"k\", 1]]"), ("module", .str "b"), ("method", .str "m")]

/-- The completion of the call, with one more mutation. -/
def furtherMutation : Json :=
  .object [("execution_index", .str "[[\"k\", 1]]"),
    ("transformer_fault", .object [("has_next", .bool true), ("type", .str "StringTransformer")])]

/-- An analysis with an exception for a method. -/
def failing : Analysis :=
  ⟨[⟨"failing", .atom (.literal ['m']), [⟨"E", .empty⟩], [], []⟩]⟩

theorem trailOf_ruledCall : trailOf ruledCall = .ok [("k", 1)] := by cbv

theorem candidates_ruledCall :
    failing.candidates (Rpc.textOf "module" ruledCall) (Rpc.textOf "method" ruledCall) =
      [.exception ⟨"E", .empty⟩] := by cbv

theorem trailOf_furtherMutation : trailOf furtherMutation = .ok [("k", 1)] := by cbv

theorem continuation?_furtherMutation :
    continuation? furtherMutation = some (.ofTransformer .text) := by cbv

/-- What is offered is scheduled, in order. -/
def scheduleAll (x : Explorer) (os : List (Trail × Fault)) : Explorer :=
  os.foldl (fun x o => x.schedule o.1 o.2) x

/-- The same plans, and the same faults at hand. -/
structure SamePlans (x y : Explorer) : Prop where
  queue : y.queue = x.queue
  explored : y.explored = x.explored
  plan : y.plan = x.plan
  carried : y.carried? = x.carried?

theorem SamePlans.refl (x : Explorer) : SamePlans x x := ⟨rfl, rfl, rfl, rfl⟩

/-! ### What is scheduled -/

theorem schedule_eq (x : Explorer) (t : Trail) (f : Fault) :
    x.schedule t f = x ∨ ∃ p, x.carried? = some p ∧ x.knows (p.put t f) = false ∧
      x.schedule t f = { x with queue := x.queue ++ [p.put t f] } := by
  unfold schedule
  cases hcurrent : x.current with
  | none => exact .inl rfl
  | some e =>
      simp only
      cases hknows : x.knows (e.faults.put t f) with
      | true => exact .inl (by simp)
      | false => exact .inr ⟨e.faults, by simp [carried?, hcurrent], hknows, by simp⟩

theorem exists_schedule (x : Explorer) (t : Trail) (f : Fault) :
    ∃ queue, x.schedule t f = { x with queue } := by
  rcases schedule_eq x t f with h | ⟨p, -, -, h⟩
  · exact ⟨x.queue, h⟩
  · exact ⟨_, h⟩

theorem carried?_schedule (x : Explorer) (t : Trail) (f : Fault) :
    (x.schedule t f).carried? = x.carried? := by
  obtain ⟨queue, h⟩ := exists_schedule x t f
  rw [h]
  rfl

theorem plan_schedule (x : Explorer) (t : Trail) (f : Fault) :
    (x.schedule t f).plan = x.plan := by
  obtain ⟨queue, h⟩ := exists_schedule x t f
  rw [h]

theorem mem_known_schedule {x : Explorer} {q : Plan} (h : q ∈ x.known) (t : Trail) (f : Fault) :
    q ∈ (x.schedule t f).known := by
  rcases schedule_eq x t f with hx | ⟨p, -, -, hx⟩
  · rwa [hx]
  · rw [hx]
    simp only [known, List.mem_append] at h ⊢
    rcases h with h | h
    · exact .inl h
    · exact .inr (.inl h)

/-- What is scheduled for the execution at hand is known afterwards. -/
theorem exists_known_schedule {x : Explorer} {p : Plan} (hp : x.carried? = some p)
    (hdistinct : p.Distinct) (t : Trail) (f : Fault) :
    ∃ q ∈ (x.schedule t f).known, q.same (p.put t f) = true := by
  unfold schedule
  cases hcurrent : x.current with
  | none => simp [carried?, hcurrent] at hp
  | some e =>
      obtain rfl : e.faults = p := by simpa [carried?, hcurrent] using hp
      simp only
      cases hknows : x.knows (e.faults.put t f) with
      | true =>
          rw [if_pos rfl]
          exact (knows_iff x _).1 hknows
      | false =>
          rw [if_neg Bool.false_ne_true]
          exact ⟨e.faults.put t f, by simp [known],
            Plan.same_refl (Ledger.distinct_put hdistinct t f)⟩

/-- Scheduling touches nothing but the queue. -/
theorem exists_scheduleAll (x : Explorer) (os : List (Trail × Fault)) :
    ∃ queue, x.scheduleAll os = { x with queue } := by
  induction os generalizing x with
  | nil => exact ⟨x.queue, rfl⟩
  | cons o os ih =>
      obtain ⟨queue, h⟩ := exists_schedule x o.1 o.2
      rw [scheduleAll, List.foldl_cons, h]
      exact ih { x with queue }

theorem current_scheduleAll (x : Explorer) (os : List (Trail × Fault)) :
    (x.scheduleAll os).current = x.current := by
  obtain ⟨queue, h⟩ := exists_scheduleAll x os
  rw [h]

theorem carried?_scheduleAll (x : Explorer) (os : List (Trail × Fault)) :
    (x.scheduleAll os).carried? = x.carried? := by
  rw [carried?, carried?, current_scheduleAll]

theorem explored_scheduleAll (x : Explorer) (os : List (Trail × Fault)) :
    (x.scheduleAll os).explored = x.explored := by
  obtain ⟨queue, h⟩ := exists_scheduleAll x os
  rw [h]

theorem plan_scheduleAll (x : Explorer) (os : List (Trail × Fault)) :
    (x.scheduleAll os).plan = x.plan := by
  obtain ⟨queue, h⟩ := exists_scheduleAll x os
  rw [h]

theorem report_scheduleAll (x : Explorer) (os : List (Trail × Fault)) :
    (x.scheduleAll os).report = x.report := by
  obtain ⟨queue, h⟩ := exists_scheduleAll x os
  rw [h]

theorem analysis_scheduleAll (x : Explorer) (os : List (Trail × Fault)) :
    (x.scheduleAll os).analysis = x.analysis := by
  obtain ⟨queue, h⟩ := exists_scheduleAll x os
  rw [h]

theorem mem_known_scheduleAll {x : Explorer} {q : Plan} (h : q ∈ x.known)
    (os : List (Trail × Fault)) : q ∈ (x.scheduleAll os).known := by
  induction os generalizing x with
  | nil => exact h
  | cons o os ih => exact ih (mem_known_schedule h o.1 o.2)

theorem exists_known_scheduleAll {x : Explorer} {p : Plan} (hp : x.carried? = some p)
    (hdistinct : p.Distinct) {os : List (Trail × Fault)} {o : Trail × Fault} (ho : o ∈ os) :
    ∃ q ∈ (x.scheduleAll os).known, q.same (p.put o.1 o.2) = true := by
  induction os generalizing x with
  | nil => simp at ho
  | cons o' os ih =>
      rcases List.mem_cons.1 ho with rfl | ho
      · obtain ⟨q, hq, hsame⟩ := exists_known_schedule hp hdistinct o.1 o.2
        exact ⟨q, mem_known_scheduleAll hq os, hsame⟩
      · exact ih ((carried?_schedule x o'.1 o'.2).trans hp) ho

/-- A plan in the queue after scheduling was there before, or is the plan at hand with one of the
faults that were scheduled. -/
theorem mem_queue_scheduleAll {x : Explorer} {os : List (Trail × Fault)} {q : Plan}
    (h : q ∈ (x.scheduleAll os).queue) :
    q ∈ x.queue ∨ ∃ p, x.carried? = some p ∧ ∃ o ∈ os, q = p.put o.1 o.2 := by
  induction os generalizing x with
  | nil => exact .inl h
  | cons o os ih =>
      rw [scheduleAll, List.foldl_cons] at h
      rcases ih h with hq | ⟨p, hp, o', ho', hq⟩
      · rcases schedule_eq x o.1 o.2 with hx | ⟨p, hp, -, hx⟩
        · rw [hx] at hq
          exact .inl hq
        · rw [hx] at hq
          rcases List.mem_append.1 hq with hq | hq
          · exact .inl hq
          · exact .inr ⟨p, hp, o, List.mem_cons_self, List.mem_singleton.1 hq⟩
      · rw [carried?_schedule] at hp
        exact .inr ⟨p, hp, o', List.mem_cons_of_mem _ ho', hq⟩

theorem scheduleAll_of_idle {x : Explorer} (h : x.carried? = none) (os : List (Trail × Fault)) :
    x.scheduleAll os = x := by
  induction os with
  | nil => rfl
  | cons o os ih =>
      have hx : x.schedule o.1 o.2 = x := by
        rcases schedule_eq x o.1 o.2 with hx | ⟨p, hp, -, -⟩
        · exact hx
        · simp [h] at hp
      rw [scheduleAll, List.foldl_cons, hx]
      exact ih

/-! ### What a step does -/

/-- A call is noted in the execution at hand and in the report. -/
def noteCall (x : Explorer) (e : Execution) (t : Trail) (record : Json) : Explorer :=
  { x with current := some (e.register t record).2, report := x.report.recordCall t record }

/-- An outcome is noted in the execution at hand and in the report. -/
def noteOutcome (x : Explorer) (t : Trail) (record : Json) : Explorer :=
  { x with
    current := x.current.map fun e => e.complete t record
    report := if isCompletion record then x.report.recordCompletion t record else x.report }

theorem samePlans_noteCall {x : Explorer} {e : Execution} (h : x.current = some e) (t : Trail)
    (record : Json) : SamePlans x (x.noteCall e t record) :=
  ⟨rfl, rfl, rfl, by simp [noteCall, carried?, h, Execution.register]⟩

theorem samePlans_noteOutcome (x : Explorer) (t : Trail) (record : Json) :
    SamePlans x (x.noteOutcome t record) := by
  refine ⟨rfl, rfl, rfl, ?_⟩
  cases h : x.current with
  | none => simp [noteOutcome, carried?, h]
  | some e =>
      simp only [noteOutcome, carried?, h, Option.map_some, Execution.complete]
      split <;> rfl

theorem samePlans_greet (x : Explorer) (service : String) : SamePlans x (x.greet service).2 := by
  unfold greet
  cases h : x.current with
  | none => exact .refl x
  | some e =>
      simp only
      split
      · exact .refl x
      · refine ⟨rfl, rfl, rfl, ?_⟩
        simp only [carried?, h, Option.map_some, Execution.greet]
        split <;> rfl

theorem register_of_unnamed {x : Explorer} {record : Json} {e : Error}
    (ht : trailOf record = .error e) : x.register record = .error e := by
  simp only [register, ht]
  rfl

theorem complete_of_unnamed {x : Explorer} {record : Json} {e : Error}
    (ht : trailOf record = .error e) : x.complete record = .error e := by
  simp only [complete, ht]
  rfl

/-- A call of the execution at hand gets the fault planned for it; its candidates are scheduled. -/
theorem register_eq {x : Explorer} {record : Json} {t : Trail} {e : Execution}
    (ht : trailOf record = .ok t) (he : x.current = some e) :
    x.register record = .ok (⟨Int64.ofNat (e.registrations + 1), x.planned? t⟩,
      (x.noteCall e t record).scheduleAll ((x.candidates record).map (t, ·))) := by
  have hplan : planned? ((x.noteCall e t record).scheduleAll ((x.candidates record).map (t, ·))) t =
      x.planned? t := by
    rw [planned?, plan_scheduleAll]
    rfl
  rw [scheduleAll, List.foldl_map] at hplan ⊢
  rw [← hplan]
  simp only [register, ht, he]
  rfl

theorem register_of_idle {x : Explorer} {record : Json} {t : Trail}
    (ht : trailOf record = .ok t) (h : x.current = none) :
    x.register record = .ok (⟨noId, none⟩, x) := by
  simp only [register, ht, h]
  rfl

theorem complete_eq {x : Explorer} {record : Json} {t : Trail} (ht : trailOf record = .ok t) :
    x.complete record = .ok (⟨some t.text⟩,
      (x.noteOutcome t record).scheduleAll ((continuation? record).toList.map (t, ·))) := by
  simp only [complete, ht]
  cases continuation? record <;> rfl

/-- An operation other than the retirement keeps the plans and schedules what it offers. -/
theorem step_eq (x : Explorer) {op : Op} (h : op ≠ .retire) :
    ∃ y, SamePlans x y ∧ x.step op = y.scheduleAll (x.offers op) := by
  cases op with
  | register record =>
      cases ht : trailOf record with
      | error e =>
          refine ⟨x, .refl x, ?_⟩
          simp only [step, register_of_unnamed ht, offers, ht]
          rfl
      | ok t =>
          cases hx : x.current with
          | none =>
              refine ⟨x, .refl x, ?_⟩
              rw [scheduleAll_of_idle (by simp [carried?, hx])]
              simp only [step, register_of_idle ht hx]
          | some e =>
              refine ⟨x.noteCall e t record, samePlans_noteCall hx t record, ?_⟩
              simp only [step, register_eq ht hx, x.offers_register ht]
  | complete record =>
      cases ht : trailOf record with
      | error e =>
          refine ⟨x, .refl x, ?_⟩
          simp only [step, complete_of_unnamed ht, offers, ht]
          rfl
      | ok t =>
          refine ⟨x.noteOutcome t record, samePlans_noteOutcome x t record, ?_⟩
          simp only [step, complete_eq ht, offers, ht]
  | greet service => exact ⟨(x.greet service).2, samePlans_greet x service, rfl⟩
  | retire => exact absurd rfl h
  | load document =>
      refine ⟨x.step (.load document), ?_, rfl⟩
      cases hload : Analysis.ofJson document with
      | error e =>
          simp only [step, hload]
          exact .refl x
      | ok a =>
          simp only [step, hload]
          exact ⟨rfl, rfl, rfl, rfl⟩

/-! ### What the retirement does -/

/-- The plans of the execution at hand, as it was queued and as it was carried out. -/
def atHand (x : Explorer) : List Plan :=
  x.plan.toList ++ x.carried?.toList

theorem retire_of_idle {x : Explorer} (h : x.current = none) : x.retire = x := by
  unfold retire
  rw [h]

theorem explored_retire {x : Explorer} (h : x.current.isSome = true) :
    x.retire.explored = x.explored ++ x.atHand := by
  obtain ⟨e, he⟩ := Option.isSome_iff_exists.1 h
  unfold retire
  rw [he]
  simp only
  split <;> simp [atHand, carried?, he]

/-- The plan ahead is taken up, if there is one. -/
theorem queue_retire {x : Explorer} (h : x.current.isSome = true) :
    x.retire.plan.toList ++ x.retire.queue = x.queue := by
  obtain ⟨e, he⟩ := Option.isSome_iff_exists.1 h
  unfold retire
  rw [he]
  simp only
  split
  · next hq => simp [hq]
  · next hq => simp [hq]

theorem carried?_retire {x : Explorer} (h : x.current.isSome = true) :
    x.retire.carried? = x.retire.plan := by
  obtain ⟨e, he⟩ := Option.isSome_iff_exists.1 h
  unfold retire
  rw [he]
  simp only
  split <;> rfl

theorem queue_of_idle_retire {x : Explorer} (h : x.current.isSome = true)
    (hidle : x.retire.plan = none) : x.retire.queue = [] := by
  obtain ⟨e, he⟩ := Option.isSome_iff_exists.1 h
  unfold retire at hidle ⊢
  rw [he] at hidle ⊢
  simp only at hidle ⊢
  split at hidle
  · next hq => exact hq
  · exact absurd hidle (by simp)

/-! ### What every step preserves -/

theorem SamePlans.known {x y : Explorer} (h : SamePlans x y) : y.known = x.known := by
  rw [Explorer.known, Explorer.known, h.explored, h.plan, h.queue]

/-- No plan is ever forgotten. -/
theorem mem_known_step {x : Explorer} {q : Plan} (h : q ∈ x.known) (op : Op) :
    q ∈ (x.step op).known := by
  by_cases hop : op = .retire
  · subst hop
    cases hx : x.current with
    | none =>
        rw [step, retire_of_idle hx]
        exact h
    | some e =>
        have hsome : x.current.isSome = true := by simp [hx]
        have hq : q ∈ x.explored ++ x.plan.toList ++ x.queue := h
        rw [step, known, List.append_assoc, queue_retire hsome, explored_retire hsome, atHand]
        simp only [List.mem_append] at hq ⊢
        rcases hq with (hq | hq) | hq
        · exact .inl (.inl hq)
        · exact .inl (.inr (.inl hq))
        · exact .inr hq
  · obtain ⟨y, hy, hstep⟩ := step_eq x hop
    rw [hstep]
    exact mem_known_scheduleAll (hy.known ▸ h) _

theorem mem_known_run {x : Explorer} {q : Plan} (h : q ∈ x.known) (ops : List Op) :
    q ∈ (x.run ops).known := by
  induction ops generalizing x with
  | nil => exact h
  | cons op ops ih => exact ih (mem_known_step h op)

/-- The analysis stays, unless another one is loaded. -/
theorem analysis_step (x : Explorer) {op : Op} (h : ∀ document, op ≠ .load document) :
    (x.step op).analysis = x.analysis := by
  cases op with
  | register record =>
      cases ht : trailOf record with
      | error e => simp only [step, register_of_unnamed ht]
      | ok t =>
          cases hx : x.current with
          | none => simp only [step, register_of_idle ht hx]
          | some e =>
              simp only [step, register_eq ht hx, analysis_scheduleAll]
              rfl
  | complete record =>
      cases ht : trailOf record with
      | error e => simp only [step, complete_of_unnamed ht]
      | ok t =>
          simp only [step, complete_eq ht, analysis_scheduleAll]
          rfl
  | greet service =>
      simp only [step, greet]
      split
      · split <;> rfl
      · rfl
  | retire =>
      simp only [step, retire]
      split
      · rfl
      · split <;> rfl
  | load document => exact absurd rfl (h document)

theorem analysis_run (x : Explorer) {ops : List Op} (h : ∀ document, .load document ∉ ops) :
    (x.run ops).analysis = x.analysis := by
  induction ops generalizing x with
  | nil => rfl
  | cons op ops ih =>
      have hop : ∀ document, op ≠ .load document := by
        rintro document rfl
        exact h document List.mem_cons_self
      exact (ih (x.step op) fun document hmem => h document (List.mem_cons_of_mem op hmem)).trans
        (x.analysis_step hop)

/-- What holds of the plans of an explorer at all times. -/
structure Sound (x : Explorer) : Prop where
  /-- No plan has two faults for one call. -/
  distinct : ∀ p ∈ x.known ++ x.carried?.toList, p.Distinct
  /-- The execution at hand carries out its plan, the first one none. -/
  carried : ∀ p, x.carried? = some p → p = x.plan.getD .empty
  /-- Exploration ends when nothing is left to carry out. -/
  idle : x.carried? = none → x.plan = none ∧ x.queue = []

theorem sound_start (analysis : Option Analysis) (lenient : Bool) :
    (start analysis lenient).Sound := by
  refine ⟨?_, ?_, ?_⟩
  · intro p hp
    obtain rfl : p = .empty := by
      simpa [start, known, carried?, Execution.empty, Execution.ofPlan] using hp
    exact Ledger.distinct_empty
  · intro p hp
    exact (Option.some.inj hp).symm
  · intro h
    simp [start, carried?] at h

theorem mem_known_retire {x : Explorer} (h : x.current.isSome = true) {q : Plan} :
    q ∈ x.retire.known ↔ q ∈ x.known ++ x.carried?.toList := by
  rw [known, List.append_assoc, queue_retire h, explored_retire h, atHand, known]
  simp only [List.mem_append]
  tauto

theorem sound_step {x : Explorer} (h : x.Sound) (op : Op) : (x.step op).Sound := by
  by_cases hop : op = .retire
  · subst hop
    cases hx : x.current with
    | none =>
        rw [step, retire_of_idle hx]
        exact h
    | some e =>
        have hsome : x.current.isSome = true := by simp [hx]
        rw [step]
        refine ⟨?_, ?_, ?_⟩
        · intro p hp
          apply h.distinct p
          rcases List.mem_append.1 hp with hp | hp
          · exact (mem_known_retire hsome).1 hp
          · rw [carried?_retire hsome] at hp
            exact (mem_known_retire hsome).1
              (List.mem_append.2 (.inl (List.mem_append.2 (.inr hp))))
        · intro p hp
          rw [carried?_retire hsome] at hp
          rw [hp]
          rfl
        · intro hidle
          rw [carried?_retire hsome] at hidle
          exact ⟨hidle, queue_of_idle_retire hsome hidle⟩
  · obtain ⟨y, hy, hstep⟩ := step_eq x hop
    rw [hstep]
    have hcarried : (y.scheduleAll (x.offers op)).carried? = x.carried? :=
      (carried?_scheduleAll y _).trans hy.carried
    have hplan : (y.scheduleAll (x.offers op)).plan = x.plan :=
      (plan_scheduleAll y _).trans hy.plan
    have hexplored : (y.scheduleAll (x.offers op)).explored = x.explored :=
      (explored_scheduleAll y _).trans hy.explored
    refine ⟨?_, ?_, ?_⟩
    · intro p hp
      rw [known, hcarried, hplan, hexplored] at hp
      simp only [List.mem_append] at hp
      have hold : p ∈ x.known ++ x.carried?.toList → p.Distinct := h.distinct p
      simp only [known, List.mem_append] at hold
      rcases hp with (hp | hp) | hp
      · exact hold (.inl (.inl hp))
      · rcases mem_queue_scheduleAll hp with hp | ⟨q, hq, o, -, rfl⟩
        · exact hold (.inl (.inr (hy.queue ▸ hp)))
        · have hq' : q ∈ x.known ++ x.carried?.toList := by simp [← hy.carried, hq]
          exact Ledger.distinct_put (h.distinct q hq') _ _
      · exact hold (.inr hp)
    · intro p hp
      rw [hplan]
      exact h.carried p (hcarried ▸ hp)
    · intro hidle
      rw [hcarried] at hidle
      obtain ⟨hp, hq⟩ := h.idle hidle
      refine ⟨hplan.trans hp, ?_⟩
      rw [scheduleAll_of_idle (hy.carried.trans hidle), hy.queue, hq]

theorem sound_run {x : Explorer} (h : x.Sound) (ops : List Op) : (x.run ops).Sound := by
  induction ops generalizing x with
  | nil => exact h
  | cons op ops ih => exact ih (sound_step h op)

end Explorer

end Faultline
