import Faultline.Proofs.Explorer.Run
import Faultline.Proofs.Trail

/-!
# One execution of an explorer

What stays the same while an execution is at hand: it goes on, its plan is the same, and a service
is told once that it is new.  At its start no service was told.
-/

namespace Faultline

namespace Explorer

variable {x y : Explorer}

/-- Whether a service was told that the execution at hand is new to it. -/
def greets (x : Explorer) (service : String) : Bool :=
  x.current.any (·.hasGreeted service)

/-- The execution at hand has just begun to carry out its plan. -/
def AtStart (x : Explorer) : Prop :=
  x.current = some (.ofPlan (x.plan.getD .empty))

theorem atStart_start (analysis : Option Analysis) (lenient : Bool) :
    (start analysis lenient).AtStart := rfl

/-- The retirement of an execution starts the next one, if there is a next one. -/
theorem atStart_retire (hx : x.current.isSome = true) (h : x.retire.isRunning = true) :
    x.retire.AtStart := by
  obtain ⟨e, he⟩ := Option.isSome_iff_exists.1 hx
  unfold retire isRunning at h
  unfold retire AtStart
  rw [he] at h ⊢
  simp only at h ⊢
  split at h
  · simp at h
  · rfl

theorem AtStart.isRunning (h : x.AtStart) : x.isRunning = true := by
  rw [Explorer.isRunning, h]
  rfl

theorem AtStart.greets (h : x.AtStart) (service : String) : x.greets service = false := by
  rw [Explorer.greets, h]
  rfl

theorem AtStart.carried? (h : x.AtStart) : x.carried? = some (x.plan.getD .empty) := by
  rw [Explorer.carried?, h]
  rfl

/-! ### Greetings -/

theorem greet_fst (hx : x.isRunning = true) (service : String) :
    (x.greet service).1 = !x.greets service := by
  obtain ⟨e, he⟩ := Option.isSome_iff_exists.1 hx
  simp only [greet, greets, he, Option.any_some]
  cases e.hasGreeted service <;> rfl

theorem greets_greet (hx : x.isRunning = true) (service other : String) :
    (x.greet service).2.greets other = (other == service || x.greets other) := by
  obtain ⟨e, he⟩ := Option.isSome_iff_exists.1 hx
  simp only [greet, he]
  cases hg : e.hasGreeted service with
  | true =>
      by_cases ho : other = service
      · simp [greets, he, ho, hg]
      · simp [greets, he, ho]
  | false => simp [greets, he]

/-- A greeting at the start of an execution comes before all registrations. -/
theorem AtStart.exists_greet (h : x.AtStart) (service : String) :
    ∃ e, (x.greet service).2.current = some e ∧ e.registrations = 0 := by
  have hgreet : (x.greet service).2 =
      { x with current := some ((Execution.ofPlan (x.plan.getD .empty)).greet service) } := by
    rw [greet, h]
    rfl
  exact ⟨_, by rw [hgreet], rfl⟩

theorem isRunning_of_carried? (h : y.carried? = x.carried?) : y.isRunning = x.isRunning := by
  have := congrArg Option.isSome h
  simpa [carried?, isRunning] using this

theorem isRunning_greet (x : Explorer) (service : String) :
    (x.greet service).2.isRunning = x.isRunning :=
  isRunning_of_carried? (samePlans_greet x service).carried

/-! ### Registrations -/

/-- A call of the execution at hand gets the fault that the plan has for it, and nothing else
changes that later calls would notice. -/
theorem exists_register_eq (hx : x.isRunning = true) {record : Json} {t : Trail}
    (ht : trailOf record = .ok t) :
    ∃ id y, x.register record = .ok (⟨id, x.planned? t⟩, y) ∧ y.carried? = x.carried? ∧
      y.plan = x.plan ∧ ∀ service, y.greets service = x.greets service := by
  obtain ⟨e, he⟩ := Option.isSome_iff_exists.1 hx
  refine ⟨_, _, register_eq ht he, ?_, ?_, ?_⟩
  · rw [carried?_scheduleAll]
    exact (samePlans_noteCall he t record).carried
  · rw [plan_scheduleAll]
    rfl
  · intro service
    rw [greets, greets, current_scheduleAll, he]
    rfl

end Explorer

end Faultline
