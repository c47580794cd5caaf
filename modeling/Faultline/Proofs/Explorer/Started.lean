import Faultline.Proofs.Explorer.Coverage
import Faultline.Proofs.Sameness

/-!
# Executions that an explorer starts

The plans of the executions that a run starts, in order.  What was carried out and what waits is
one list without repetitions: retirement moves its head of the queue behind the executions, and
what is scheduled goes to its end only if it is new.
-/

namespace Faultline

namespace Explorer

variable {x : Explorer} {ops : List Op} {ran : List Plan}

/-- The plan of the execution that an operation starts, if it starts one. -/
def begun (x : Explorer) : Op → List Plan
  | .retire => x.retire.carried?.toList
  | _ => []

/-- The plans of the executions that operations start. -/
def started (x : Explorer) : List Op → List Plan
  | [] => []
  | op :: ops => x.begun op ++ started (x.step op) ops

/-- The plans of all executions up to the end of a run, that of the execution at its start
included. -/
def executions (x : Explorer) (ops : List Op) : List Plan :=
  x.carried?.toList ++ x.started ops

theorem begun_of_ne {op : Op} (h : op ≠ .retire) (x : Explorer) : x.begun op = [] := by
  cases op with
  | retire => exact absurd rfl h
  | register | complete | greet | load => rfl

theorem started_concat (x : Explorer) (ops : List Op) (op : Op) :
    x.started (ops ++ [op]) = x.started ops ++ (x.run ops).begun op := by
  induction ops generalizing x with
  | nil => simp [started]
  | cons o ops ih => simp [started, ih, run]

@[simp] theorem executions_nil (x : Explorer) : x.executions [] = x.carried?.toList := by
  simp [executions, started]

theorem executions_concat (x : Explorer) (ops : List Op) (op : Op) :
    x.executions (ops ++ [op]) = x.executions ops ++ (x.run ops).begun op := by
  rw [executions, executions, started_concat, List.append_assoc]

theorem executions_concat_of_ne (x : Explorer) (ops : List Op) {op : Op} (h : op ≠ .retire) :
    x.executions (ops ++ [op]) = x.executions ops := by
  rw [executions_concat, begun_of_ne h, List.append_nil]

/-! ### One list without repetitions -/

/-- What was carried out and what waits are all different. -/
structure Fresh (x : Explorer) (ran : List Plan) : Prop where
  different : (ran ++ x.queue).Pairwise fun p q => ¬ p.Agrees q
  distinct : ∀ p ∈ ran ++ x.queue, p.Distinct
  /-- Every plan that waits has a fault. -/
  faulty : ∀ p ∈ x.queue, p.isEmpty = false
  mem_ran : ∀ p, p ∈ ran ↔ p ∈ x.explored ∨ x.carried? = some p

theorem isEmpty_put (p : Plan) (t : Trail) (f : Fault) : (p.put t f).isEmpty = false := by
  obtain ⟨entries⟩ := p
  cases entries with
  | nil => rfl
  | cons e es =>
      simp only [Ledger.put, Ledger.putEntry, Ledger.isEmpty]
      split <;> rfl

theorem not_agrees_put (t : Trail) (f : Fault) : ¬ Plan.Agrees .empty (Ledger.put .empty t f) := by
  intro h
  have ht := h t
  rw [Ledger.get?_put, if_pos rfl] at ht
  exact Bool.false_ne_true ht

/-- What is put into the queue differs from all that was carried out or waits. -/
theorem Fresh.schedule (h : x.Fresh ran)
    (hcarried : ∀ p, x.carried? = some p → p = x.plan.getD .empty) (t : Trail) (f : Fault) :
    (x.schedule t f).Fresh ran := by
  rcases schedule_eq x t f with hx | ⟨p, hp, hnew, hx⟩
  · rwa [hx]
  have hpran : p ∈ ran := (h.mem_ran p).2 (.inr hp)
  have hdistinct : (p.put t f).Distinct :=
    Ledger.distinct_put (h.distinct p (List.mem_append.2 (.inl hpran))) t f
  have hknown : ∀ q ∈ x.known, q ∈ ran ++ x.queue → ¬ q.Agrees (p.put t f) := by
    intro q hq hmem hagrees
    have hsame : q.same (p.put t f) = true :=
      (Plan.same_iff (h.distinct q hmem) hdistinct).2 hagrees
    have hknows := (knows_iff x (p.put t f)).2 ⟨q, hq, hsame⟩
    rw [hknows] at hnew
    exact Bool.noConfusion hnew
  have hdiffers : ∀ q ∈ ran ++ x.queue, ¬ q.Agrees (p.put t f) := by
    intro q hmem
    rcases List.mem_append.1 hmem with hq | hq
    · rcases (h.mem_ran q).1 hq with hexplored | hcurrent
      · exact hknown q (by simp [known, hexplored]) hmem
      · obtain rfl : q = p := Option.some.inj (hcurrent.symm.trans hp)
        cases hplan : x.plan with
        | some r =>
            obtain rfl : q = r := by simpa [hplan] using hcarried q hp
            exact hknown q (by simp [known, hplan]) hmem
        | none =>
            obtain rfl : q = .empty := by simpa [hplan] using hcarried q hp
            exact not_agrees_put t f
    · exact hknown q (by simp [known, hq]) hmem
  rw [hx]
  refine ⟨?_, ?_, ?_, h.mem_ran⟩
  · rw [← List.append_assoc]
    refine List.pairwise_append.2 ⟨h.different, List.pairwise_singleton _ _, ?_⟩
    intro q hq r hr
    rw [List.mem_singleton.1 hr]
    exact hdiffers q hq
  · intro q hq
    rcases List.mem_append.1 (List.append_assoc .. ▸ hq) with hq | hq
    · exact h.distinct q hq
    · rw [List.mem_singleton.1 hq]
      exact hdistinct
  · intro q hq
    rcases List.mem_append.1 hq with hq | hq
    · exact h.faulty q hq
    · rw [List.mem_singleton.1 hq]
      exact isEmpty_put p t f

theorem Fresh.scheduleAll (h : x.Fresh ran)
    (hcarried : ∀ p, x.carried? = some p → p = x.plan.getD .empty) (os : List (Trail × Fault)) :
    (x.scheduleAll os).Fresh ran := by
  induction os generalizing x with
  | nil => exact h
  | cons o os ih =>
      refine ih (h.schedule hcarried o.1 o.2) ?_
      rw [carried?_schedule, plan_schedule]
      exact hcarried

theorem Fresh.of_samePlans {y : Explorer} (h : x.Fresh ran) (hy : SamePlans x y) :
    y.Fresh ran := by
  obtain ⟨hdifferent, hdistinct, hfaulty, hmem⟩ := h
  rw [← hy.queue] at hdifferent hdistinct hfaulty
  refine ⟨hdifferent, hdistinct, hfaulty, fun p => ?_⟩
  rw [hmem, hy.explored, hy.carried]

/-- The plan at hand is the one that is carried out. -/
theorem Sound.mem_atHand (h : x.Sound) (p : Plan) : p ∈ x.atHand ↔ x.carried? = some p := by
  rw [atHand, List.mem_append, Option.mem_toList, Option.mem_toList, or_iff_right_of_imp]
  intro hplan
  cases hcarried : x.carried? with
  | none => simp [(h.idle hcarried).1] at hplan
  | some q => rw [h.carried q hcarried, hplan, Option.getD_some]

/-- Retirement moves the next plan from the queue to what is carried out. -/
theorem append_queue_retire (hx : x.current.isSome = true) :
    x.retire.carried?.toList ++ x.retire.queue = x.queue := by
  rw [carried?_retire hx, queue_retire hx]

theorem Fresh.retire (h : x.Fresh ran) (hsound : x.Sound) :
    x.retire.Fresh (ran ++ x.retire.carried?.toList) := by
  cases hcurrent : x.current with
  | none =>
      have hidle : x.carried? = none := by rw [carried?, hcurrent]; rfl
      rw [retire_of_idle hcurrent, hidle, Option.toList_none, List.append_nil]
      exact h
  | some e =>
      have hx : x.current.isSome = true := by rw [hcurrent]; rfl
      have hroster : ran ++ x.retire.carried?.toList ++ x.retire.queue = ran ++ x.queue := by
        rw [List.append_assoc, append_queue_retire hx]
      refine ⟨hroster ▸ h.different, hroster ▸ h.distinct, ?_, ?_⟩
      · intro p hp
        exact h.faulty p (append_queue_retire hx ▸ List.mem_append.2 (.inr hp))
      · intro p
        rw [List.mem_append, h.mem_ran, explored_retire hx, List.mem_append, hsound.mem_atHand,
          Option.mem_toList]

theorem Fresh.step (h : x.Fresh ran) (hsound : x.Sound) (op : Op) :
    (x.step op).Fresh (ran ++ x.begun op) := by
  by_cases hop : op = .retire
  · subst hop
    exact h.retire hsound
  · obtain ⟨y, hy, hstep⟩ := step_eq x hop
    rw [hstep, begun_of_ne hop, List.append_nil]
    apply (h.of_samePlans hy).scheduleAll
    rw [hy.carried, hy.plan]
    exact hsound.carried

theorem fresh_start (analysis : Option Analysis) (lenient : Bool) :
    (start analysis lenient).Fresh [.empty] := by
  refine ⟨List.pairwise_singleton _ _, ?_, ?_, ?_⟩
  · intro p hp
    rw [List.mem_singleton.1 hp]
    exact Ledger.distinct_empty
  · intro p hp
    cases hp
  · intro p
    simp [start, carried?, Execution.empty, Execution.ofPlan, eq_comm]

/-- Whatever a run does, the plans that it carried out and those that wait are different. -/
theorem fresh_run (analysis : Option Analysis) (lenient : Bool) (ops : List Op) :
    ((start analysis lenient).run ops).Fresh ((start analysis lenient).executions ops) := by
  induction ops using List.reverseRecOn with
  | nil => exact fresh_start analysis lenient
  | append_singleton ops op ih =>
      rw [run_concat, executions_concat]
      exact ih.step (sound_run (sound_start analysis lenient) ops) op

/-- Only the first execution has no plan. -/
theorem plan_eq_none_iff (analysis : Option Analysis) (lenient : Bool)
    (hrun : ((start analysis lenient).run ops).isRunning = true) :
    ((start analysis lenient).run ops).plan = none ↔ .retire ∉ ops := by
  constructor
  · intro hplan hmem
    have hcarried := carried?_run_of_mem hmem hrun
    rw [hplan] at hcarried
    rw [isRunning, ← Option.isSome_map (f := (·.faults))] at hrun
    rw [carried?] at hcarried
    rw [hcarried] at hrun
    exact Bool.false_ne_true hrun
  · intro hmem
    clear hrun
    induction ops using List.reverseRecOn with
    | nil => rfl
    | append_singleton ops op ih =>
        have hop : op ≠ .retire := by
          rintro rfl
          exact hmem (by simp)
        obtain ⟨y, hy, hstep⟩ := step_eq ((start analysis lenient).run ops) hop
        rw [run_concat, hstep, plan_scheduleAll, hy.plan]
        exact ih fun h => hmem (List.mem_append.2 (.inl h))

/-- No plan is carried out twice.  Whatever was done, the executions started so far have pairwise
different faults; what waits is pairwise different, has faults, and differs from all that was
carried out and from what is at hand; and the execution at hand carries out exactly its plan, none
in the first execution. -/
theorem carried_out_once (analysis : Option Analysis) (lenient : Bool) (ops : List Op) :
    ((start analysis lenient).executions ops).Pairwise (fun p q => ¬ p.Agrees q) ∧
    ((start analysis lenient).run ops).queue.Pairwise (fun p q => ¬ p.Agrees q) ∧
    (∀ p ∈ ((start analysis lenient).run ops).queue, p.isEmpty = false ∧
      (∀ q ∈ ((start analysis lenient).run ops).explored, ¬ q.Agrees p) ∧
      ∀ q ∈ ((start analysis lenient).run ops).atHand, ¬ q.Agrees p) ∧
    ∀ e, ((start analysis lenient).run ops).current = some e →
      e.faults = ((start analysis lenient).run ops).plan.getD .empty ∧
      (((start analysis lenient).run ops).plan = none ↔ .retire ∉ ops) := by
  have hsound := sound_run (sound_start analysis lenient) ops
  have hfresh := fresh_run analysis lenient ops
  obtain ⟨hran, hqueue, hbetween⟩ := List.pairwise_append.1 hfresh.different
  refine ⟨hran, hqueue, fun p hp => ⟨hfresh.faulty p hp, fun q hq => ?_, fun q hq => ?_⟩, ?_⟩
  · exact hbetween q ((hfresh.mem_ran q).2 (.inl hq)) p hp
  · exact hbetween q ((hfresh.mem_ran q).2 (.inr ((hsound.mem_atHand q).1 hq))) p hp
  · intro e he
    have hrun : ((start analysis lenient).run ops).isRunning = true := by
      rw [isRunning, he]
      rfl
    refine ⟨hsound.carried e.faults (by rw [carried?, he]; rfl), ?_⟩
    exact plan_eq_none_iff analysis lenient hrun

end Explorer

end Faultline
