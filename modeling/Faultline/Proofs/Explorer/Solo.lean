import Faultline.Proofs.Explorer.Greeting

/-!
# One call at a time

An explorer whose executions all make the same single call.  Its plans are no plan at all and
plans of one fault, so that `Solo` says all of it in faults: those that were tried before, the one
at hand, and those that wait.  A fault that is known is not scheduled again, a new one waits
behind the others, and the retirement takes up the first one that waits.
-/

namespace Faultline

namespace Plan

/-- The plan of one fault. -/
def only (t : Trail) (f : Fault) : Plan :=
  Ledger.put .empty t f

theorem put_only (t : Trail) (f g : Fault) : (only t f).put t g = only t g := by
  simp [only, Ledger.put, Ledger.empty, Ledger.putEntry]

theorem get?_only (t : Trail) (f : Fault) : (only t f).get? t = some f := by
  rw [only, Ledger.get?_put, if_pos rfl]

theorem same_only (t : Trail) (f g : Fault) : (only t f).same (only t g) = f.same g := by
  simp [only, same, Ledger.agrees, Ledger.put, Ledger.empty, Ledger.putEntry, Ledger.get?,
    Ledger.find?]

theorem empty_same_only (t : Trail) (f : Fault) : same .empty (only t f) = false := rfl

end Plan

namespace Explorer

/-- All that an explorer knows is about one call, whose faults were tried, are at hand, or wait. -/
structure Solo (analysis : Option Analysis) (t : Trail) (tried : List Fault) (f : Option Fault)
    (waiting : List Fault) (x : Explorer) : Prop where
  analysis : x.analysis = analysis
  plan : x.plan = f.map (.only t)
  carried : x.carried? = some (x.plan.getD .empty)
  queue : x.queue = waiting.map (.only t)
  explored : ∀ p, p ∈ x.explored → p = .empty ∨ ∃ g ∈ tried, p = .only t g
  mem_explored : ∀ g ∈ tried, .only t g ∈ x.explored

variable {analysis : Option Analysis} {t : Trail} {tried waiting : List Fault} {f : Option Fault}
  {x y : Explorer}

theorem solo_start (analysis : Option Analysis) (lenient : Bool) (t : Trail) :
    (start analysis lenient).Solo analysis t [] none [] :=
  ⟨rfl, rfl, rfl, rfl, fun _ hp => absurd hp List.not_mem_nil,
    fun _ hg => absurd hg List.not_mem_nil⟩

theorem Solo.isRunning (h : x.Solo analysis t tried f waiting) : x.isRunning = true := by
  have := congrArg Option.isSome h.carried
  simpa [carried?, Explorer.isRunning] using this

theorem Solo.planned? (h : x.Solo analysis t tried f waiting) : x.planned? t = f := by
  rw [Explorer.planned?, h.plan]
  cases f with
  | none => rfl
  | some f => exact Plan.get?_only t f

theorem Solo.carried_none (h : x.Solo analysis t tried none waiting) :
    x.carried? = some .empty := by
  rw [h.carried, h.plan]
  rfl

theorem Solo.carried_some {g : Fault} (h : x.Solo analysis t tried (some g) waiting) :
    x.carried? = some (.only t g) := by
  rw [h.carried, h.plan]
  rfl

theorem Solo.of_samePlans (h : x.Solo analysis t tried f waiting) (hy : SamePlans x y)
    (hanalysis : y.analysis = x.analysis) : y.Solo analysis t tried f waiting where
  analysis := hanalysis.trans h.analysis
  plan := hy.plan.trans h.plan
  carried := by rw [hy.carried, hy.plan, h.carried]
  queue := hy.queue.trans h.queue
  explored := hy.explored ▸ h.explored
  mem_explored := hy.explored ▸ h.mem_explored

theorem Solo.greet (h : x.Solo analysis t tried f waiting) (service : String) :
    (x.greet service).2.Solo analysis t tried f waiting := by
  refine h.of_samePlans (samePlans_greet x service) ?_
  unfold Explorer.greet
  split
  · split <;> rfl
  · rfl

/-! ### What is scheduled -/

/-- A plan of one fault is known when its fault is. -/
theorem Solo.knows_only (h : x.Solo analysis t tried f waiting) (g : Fault) :
    x.knows (.only t g) = (tried ++ f.toList ++ waiting).any (·.same g) := by
  rw [Bool.eq_iff_iff, knows_iff, List.any_eq_true]
  constructor
  · rintro ⟨q, hq, hsame⟩
    simp only [known, List.mem_append, h.plan, h.queue, List.mem_map, Option.mem_toList,
      Option.map_eq_some_iff] at hq
    rcases hq with (hq | ⟨g', hg', rfl⟩) | ⟨g', hg', rfl⟩
    · rcases h.explored q hq with rfl | ⟨g', hg', rfl⟩
      · rw [Plan.empty_same_only] at hsame
        cases hsame
      · exact ⟨g', by simp [hg'], Plan.same_only t g' g ▸ hsame⟩
    · exact ⟨g', by simp [hg'], Plan.same_only t g' g ▸ hsame⟩
    · exact ⟨g', by simp [hg'], Plan.same_only t g' g ▸ hsame⟩
  · rintro ⟨g', hg', hsame⟩
    refine ⟨.only t g', ?_, (Plan.same_only t g' g).trans hsame⟩
    simp only [List.mem_append, Option.mem_toList] at hg'
    rcases hg' with (hg' | hg') | hg'
    · simp [known, h.mem_explored g' hg']
    · simp [known, h.plan, hg']
    · simp only [known, h.queue]
      exact List.mem_append_right _ (List.mem_map_of_mem hg')

theorem Solo.put_carried (h : x.Solo analysis t tried f waiting) (g : Fault) {p : Plan}
    (hp : x.carried? = some p) : p.put t g = Plan.only t g := by
  obtain rfl := Option.some.inj (h.carried.symm.trans hp)
  rw [h.plan]
  cases f with
  | none => rfl
  | some f => exact Plan.put_only t f g

theorem Solo.schedule_of_known (h : x.Solo analysis t tried f waiting) {g : Fault}
    (hg : (tried ++ f.toList ++ waiting).any (·.same g) = true) : x.schedule t g = x := by
  rcases schedule_eq x t g with hx | ⟨p, hp, hnew, -⟩
  · exact hx
  · rw [h.put_carried g hp, h.knows_only, hg] at hnew
    cases hnew

theorem Solo.schedule_of_new (h : x.Solo analysis t tried f waiting) {g : Fault}
    (hg : (tried ++ f.toList ++ waiting).any (·.same g) = false) :
    (x.schedule t g).Solo analysis t tried f (waiting ++ [g]) := by
  obtain ⟨e, he⟩ := Option.isSome_iff_exists.1 h.isRunning
  have hput : e.faults.put t g = Plan.only t g := h.put_carried g (by rw [carried?, he]; rfl)
  have hx : x.schedule t g = { x with queue := x.queue ++ [.only t g] } := by
    rw [schedule, he]
    simp only [hput, h.knows_only, hg, Bool.false_eq_true, if_false]
  rw [hx]
  exact ⟨h.analysis, h.plan, h.carried, by simp [h.queue], h.explored, h.mem_explored⟩

/-! ### What is reported -/

/-- A completion is in the report, whatever goes on from it. -/
theorem get?_completions_scheduleAll (x : Explorer) (t : Trail) {record : Json}
    (h : isCompletion record = true) (os : List (Trail × Fault)) :
    ((x.noteOutcome t record).scheduleAll os).report.completions.get? t = some record := by
  rw [report_scheduleAll, noteOutcome, h, if_pos rfl]
  simp only [Report.recordCompletion, Ledger.get?_put, if_true]

theorem Solo.noteOutcome (h : x.Solo analysis t tried f waiting) (record : Json) :
    (x.noteOutcome t record).Solo analysis t tried f waiting :=
  h.of_samePlans (samePlans_noteOutcome x t record) rfl

/-! ### What the retirement does -/

theorem Solo.explored_retire (h : x.Solo analysis t tried f waiting) :
    x.retire.explored = x.explored ++ (f.map (.only t)).toList ++
      [(f.map (.only t)).getD .empty] := by
  rw [Explorer.explored_retire h.isRunning, atHand, h.carried, h.plan, List.append_assoc]
  rfl

/-- The fault at hand was tried, and the first one that waits is taken up. -/
theorem Solo.retire {g : Fault} (h : x.Solo analysis t tried f (g :: waiting)) :
    x.retire.Solo analysis t (tried ++ f.toList) (some g) waiting ∧ x.retire.AtStart := by
  obtain ⟨e, he⟩ := Option.isSome_iff_exists.1 h.isRunning
  have hretire : x.retire = { x with
      explored := x.retire.explored
      plan := some (.only t g), current := some (.ofPlan (.only t g))
      queue := waiting.map (.only t), report := x.retire.report } := by
    simp only [Explorer.retire, he, h.queue, List.map_cons]
  have hexplored := h.explored_retire
  rw [hretire] at hexplored ⊢
  simp only at hexplored
  refine ⟨⟨h.analysis, rfl, rfl, rfl, ?_, ?_⟩, rfl⟩
  · intro p hp
    simp only [hexplored, List.mem_append, List.mem_singleton] at hp
    rcases hp with (hp | hp) | hp
    · rcases h.explored p hp with hp | ⟨g', hg', hp⟩
      · exact .inl hp
      · exact .inr ⟨g', List.mem_append_left _ hg', hp⟩
    · cases f with
      | none => cases hp
      | some f => exact .inr ⟨f, by simp, by simpa using hp⟩
    · cases f with
      | none => exact .inl hp
      | some f => exact .inr ⟨f, by simp, by simpa using hp⟩
  · intro g' hg'
    simp only [hexplored, List.mem_append]
    rcases List.mem_append.1 hg' with hg' | hg'
    · exact .inl (.inl (h.mem_explored g' hg'))
    · obtain rfl := Option.mem_toList.1 hg'
      exact .inl (.inr (by simp))

theorem Solo.isRunning_retire (h : x.Solo analysis t tried f []) :
    x.retire.isRunning = false := by
  rw [Explorer.isRunning_retire x h.isRunning, h.queue]
  rfl

end Explorer

end Faultline
