import Faultline.Proofs.Explorer.Greeting

/-!
# To whom an execution is new

A service is told that an execution is new when it asks for the first time, and never again until
the next execution.  The services that asked are read off the operations alone: those since the
last retirement (`askers`).  An explorer remembers just these (`Remembers`), whatever else it does,
so the answer depends on nothing that came before the execution (`new_iff`).
-/

namespace Faultline

namespace Explorer

variable {x : Explorer} {asked : List String}

/-- The services that asked since the last retirement, after one more operation. -/
def askAfter (asked : List String) : Op → List String
  | .greet service => asked ++ [service]
  | .retire => []
  | _ => asked

/-- The services that asked since the last retirement. -/
def askers (ops : List Op) : List String :=
  ops.foldl askAfter []

/-- While there is an execution, the services that were told of it are those that asked. -/
def Remembers (x : Explorer) (asked : List String) : Prop :=
  x.isRunning = true → ∀ service, x.greets service = true ↔ service ∈ asked

theorem greets_scheduleAll (x : Explorer) (os : List (Trail × Fault)) (service : String) :
    (x.scheduleAll os).greets service = x.greets service := by
  rw [greets, greets, current_scheduleAll]

theorem greets_noteOutcome (x : Explorer) (t : Trail) (record : Json) (service : String) :
    (x.noteOutcome t record).greets service = x.greets service := by
  cases he : x.current with
  | none => simp [greets, noteOutcome, he]
  | some e =>
      simp only [greets, noteOutcome, he, Option.map_some, Option.any_some, Execution.complete]
      split <;> rfl

/-- Nothing but a greeting or the retirement changes who was told. -/
theorem greets_step (x : Explorer) {op : Op} (hgreet : ∀ service, op ≠ .greet service)
    (hretire : op ≠ .retire) (service : String) :
    (x.step op).greets service = x.greets service := by
  cases op with
  | register record =>
      cases ht : trailOf record with
      | error e => simp only [step, register_of_unnamed ht]
      | ok t =>
          cases he : x.current with
          | none => simp only [step, register_of_idle ht he]
          | some e =>
              simp only [step, register_eq ht he, greets_scheduleAll]
              simp only [greets, noteCall, he]
              rfl
  | complete record =>
      cases ht : trailOf record with
      | error e => simp only [step, complete_of_unnamed ht]
      | ok t => simp only [step, complete_eq ht, greets_scheduleAll, greets_noteOutcome]
  | greet other => exact absurd rfl (hgreet other)
  | retire => exact absurd rfl hretire
  | load document =>
      simp only [step]
      split <;> rfl

theorem isRunning_step (x : Explorer) {op : Op} (hretire : op ≠ .retire) :
    (x.step op).isRunning = x.isRunning := by
  obtain ⟨y, hy, hstep⟩ := step_eq x hretire
  rw [hstep]
  exact isRunning_of_carried? ((carried?_scheduleAll y _).trans hy.carried)

theorem remembers_start (analysis : Option Analysis) (lenient : Bool) :
    (start analysis lenient).Remembers [] := by
  intro _ service
  rw [(atStart_start analysis lenient).greets service]
  simp

/-- An execution begins with nobody told. -/
theorem remembers_retire (x : Explorer) : x.retire.Remembers [] := by
  intro hrunning service
  have hx : x.current.isSome = true := by
    by_contra hnone
    have hidle : x.current = none := by simpa using hnone
    rw [retire_of_idle hidle] at hrunning
    exact hnone hrunning
  rw [(atStart_retire hx hrunning).greets service]
  simp

theorem Remembers.of_other (h : x.Remembers asked) {op : Op}
    (hgreet : ∀ service, op ≠ .greet service) (hretire : op ≠ .retire) :
    (x.step op).Remembers asked := by
  intro hrunning service
  rw [isRunning_step x hretire] at hrunning
  rw [greets_step x hgreet hretire]
  exact h hrunning service

theorem Remembers.step (h : x.Remembers asked) (op : Op) :
    (x.step op).Remembers (askAfter asked op) := by
  cases op with
  | greet other =>
      intro hrunning service
      have hx : x.isRunning = true := (isRunning_greet x other).symm.trans hrunning
      rw [Explorer.step, greets_greet hx, Bool.or_eq_true, h hx service, beq_iff_eq, askAfter,
        List.mem_append, List.mem_singleton, or_comm]
  | retire => exact remembers_retire x
  | register record => exact h.of_other (by simp) (by simp)
  | complete record => exact h.of_other (by simp) (by simp)
  | load document => exact h.of_other (by simp) (by simp)

theorem remembers_run (analysis : Option Analysis) (lenient : Bool) (ops : List Op) :
    ((start analysis lenient).run ops).Remembers (askers ops) := by
  induction ops using List.reverseRecOn with
  | nil => exact remembers_start analysis lenient
  | append_singleton ops op ih =>
      rw [run_concat, askers, List.foldl_append]
      exact ih.step op

/-- At every moment of every run, a service that asks is told that the execution is new exactly if
there is one and the service has not asked since it began. -/
theorem new_iff (analysis : Option Analysis) (lenient : Bool) (ops : List Op) (service : String) :
    (((start analysis lenient).run ops).greet service).1 = true ↔
      ((start analysis lenient).run ops).isRunning = true ∧ service ∉ askers ops := by
  cases hrunning : ((start analysis lenient).run ops).isRunning with
  | false =>
      have hidle : ((start analysis lenient).run ops).current = none := by
        simpa [isRunning] using hrunning
      simp [greet, hidle]
  | true =>
      rw [greet_fst hrunning, Bool.not_eq_true', ← Bool.not_eq_true,
        remembers_run analysis lenient ops hrunning service]
      simp

end Explorer

end Faultline
