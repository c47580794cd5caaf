import Faultline.Proofs.Explorer.Run
import Mathlib.Data.List.Induction

/-!
# Exploration is exhaustive

What an explorer carries out, from its start to the end of exploration, and why.  An execution has
`Ran` with a plan where some beginning of the operations leaves it at hand; a fault is `Offered`
for a call where a later operation of that execution offers it.  The plans of the later executions
are the offers: each offer is carried out, and nothing else is.
-/

namespace Faultline

namespace Explorer

variable {x : Explorer} {ops : List Op}

/-- An execution with these faults has run, or is running. -/
def Ran (x : Explorer) (ops : List Op) (p : Plan) : Prop :=
  ∃ pre, pre <+: ops ∧ (x.run pre).carried? = some p

/-- An execution with these faults has run, or is running, and it is not the first one. -/
def RanLater (x : Explorer) (ops : List Op) (p : Plan) : Prop :=
  ∃ pre, pre <+: ops ∧ .retire ∈ pre ∧ (x.run pre).carried? = some p

/-- In an execution with these faults an operation offered a fault for a call. -/
def Offered (x : Explorer) (ops : List Op) (p : Plan) (t : Trail) (f : Fault) : Prop :=
  ∃ pre op, pre ++ [op] <+: ops ∧ (x.run pre).carried? = some p ∧ (t, f) ∈ (x.run pre).offers op

theorem Ran.append {p : Plan} (h : Ran x ops p) (ops' : List Op) : Ran x (ops ++ ops') p := by
  obtain ⟨pre, hpre, hp⟩ := h
  exact ⟨pre, hpre.trans (List.prefix_append ops ops'), hp⟩

theorem Offered.append {p : Plan} {t : Trail} {f : Fault} (h : Offered x ops p t f)
    (ops' : List Op) : Offered x (ops ++ ops') p t f := by
  obtain ⟨pre, op, hpre, hp, hf⟩ := h
  exact ⟨pre, op, hpre.trans (List.prefix_append ops ops'), hp, hf⟩

/-! ### Every offer is carried out -/

theorem ran_of_mem_atHand (h : (x.run ops).Sound) (hrun : (x.run ops).current.isSome = true)
    {p : Plan} (hp : p ∈ (x.run ops).atHand) : Ran x ops p := by
  obtain ⟨e, he⟩ := Option.isSome_iff_exists.1 hrun
  have hcarried : (x.run ops).carried? = some e.faults := by simp [carried?, he]
  refine ⟨ops, List.prefix_refl ops, ?_⟩
  rcases List.mem_append.1 hp with hp | hp
  · have hplan : (x.run ops).plan = some p := Option.mem_toList.1 hp
    rw [hcarried, h.carried _ hcarried, hplan]
    rfl
  · exact Option.mem_toList.1 hp

/-- What is explored has run. -/
theorem ran_of_mem_explored (h : x.Sound) (hx : x.explored = []) {p : Plan}
    (hp : p ∈ (x.run ops).explored) : Ran x ops p := by
  induction ops using List.reverseRecOn with
  | nil =>
      rw [run_nil, hx] at hp
      simp at hp
  | append_singleton ops op ih =>
      rw [run_concat] at hp
      by_cases hop : op = .retire
      · subst hop
        cases hcurrent : (x.run ops).current with
        | none =>
            rw [step, retire_of_idle hcurrent] at hp
            exact (ih hp).append [.retire]
        | some e =>
            have hsome : (x.run ops).current.isSome = true := by simp [hcurrent]
            rw [step, explored_retire hsome] at hp
            rcases List.mem_append.1 hp with hp | hp
            · exact (ih hp).append [.retire]
            · exact (ran_of_mem_atHand (sound_run h ops) hsome hp).append [.retire]
      · obtain ⟨y, hy, hstep⟩ := step_eq (x.run ops) hop
        rw [hstep, explored_scheduleAll, hy.explored] at hp
        exact (ih hp).append [op]

/-- An offer is known from then on. -/
theorem exists_known_of_offered (h : x.Sound) {p : Plan} {t : Trail} {f : Fault}
    (hoffer : Offered x ops p t f) : ∃ q ∈ (x.run ops).known, q.same (p.put t f) = true := by
  obtain ⟨pre, op, ⟨rest, rfl⟩, hp, hf⟩ := hoffer
  have hop : op ≠ .retire := by
    rintro rfl
    simp [offers] at hf
  obtain ⟨y, hy, hstep⟩ := step_eq (x.run pre) hop
  have hdistinct : p.Distinct := (sound_run h pre).distinct p (by simp [hp])
  obtain ⟨q, hq, hsame⟩ := exists_known_scheduleAll (hy.carried.trans hp) hdistinct hf
  refine ⟨q, ?_, hsame⟩
  rw [run_append, run_concat, hstep]
  exact mem_known_run hq rest

theorem exists_ran_of_offered (h : x.Sound) (hx : x.explored = [])
    (hidle : (x.run ops).isRunning = false) {p : Plan} {t : Trail} {f : Fault}
    (hoffer : Offered x ops p t f) : ∃ q, Ran x ops q ∧ q.Agrees (p.put t f) := by
  obtain ⟨q, hq, hsame⟩ := exists_known_of_offered h hoffer
  have hcarried : (x.run ops).carried? = none := by
    rw [carried?, Option.map_eq_none_iff]
    exact Option.isSome_eq_false_iff.1 hidle |> Option.isNone_iff_eq_none.1
  obtain ⟨hplan, hqueue⟩ := (sound_run h ops).idle hcarried
  have hexplored : q ∈ (x.run ops).explored := by simpa [known, hplan, hqueue] using hq
  obtain ⟨pre, op, hpre, hp, -⟩ := hoffer
  have hpdistinct : p.Distinct := (sound_run h pre).distinct p (by simp [hp])
  have hqdistinct : q.Distinct :=
    (sound_run h ops).distinct q (List.mem_append.2 (.inl hq))
  exact ⟨q, ran_of_mem_explored h hx hexplored,
    (Plan.same_iff hqdistinct (Ledger.distinct_put hpdistinct t f)).1 hsame⟩

/-! ### Nothing but offers is carried out -/

/-- A plan that waits or is carried out extends the plan of an earlier execution by an offer. -/
theorem exists_offered (hx : x.plan = none ∧ x.queue = []) {q : Plan}
    (hq : q ∈ (x.run ops).plan.toList ++ (x.run ops).queue) :
    ∃ p t f, Offered x ops p t f ∧ q = p.put t f := by
  induction ops using List.reverseRecOn with
  | nil =>
      rw [run_nil, hx.1, hx.2] at hq
      simp at hq
  | append_singleton ops op ih =>
      have hold : q ∈ (x.run ops).plan.toList ++ (x.run ops).queue →
          ∃ p t f, Offered x (ops ++ [op]) p t f ∧ q = p.put t f := by
        intro hq
        obtain ⟨p, t, f, hoffer, hpq⟩ := ih hq
        exact ⟨p, t, f, hoffer.append [op], hpq⟩
      rw [run_concat] at hq
      by_cases hop : op = .retire
      · subst hop
        cases hcurrent : (x.run ops).current with
        | none =>
            rw [step, retire_of_idle hcurrent] at hq
            exact hold hq
        | some e =>
            rw [step, queue_retire (by simp [hcurrent])] at hq
            exact hold (List.mem_append.2 (.inr hq))
      · obtain ⟨y, hy, hstep⟩ := step_eq (x.run ops) hop
        rw [hstep, plan_scheduleAll, hy.plan] at hq
        rcases List.mem_append.1 hq with hq | hq
        · exact hold (List.mem_append.2 (.inl hq))
        · rcases mem_queue_scheduleAll hq with hq | ⟨p, hp, ⟨t, f⟩, ho, hpq⟩
          · exact hold (List.mem_append.2 (.inr (hy.queue ▸ hq)))
          · exact ⟨p, t, f, ⟨ops, op, List.prefix_refl _, hy.carried.symm.trans hp, ho⟩, hpq⟩

/-- After the first execution the faults at hand are those of the plan. -/
theorem carried?_run_of_mem (h : .retire ∈ ops) (hx : (x.run ops).isRunning = true) :
    (x.run ops).carried? = (x.run ops).plan := by
  induction ops using List.reverseRecOn with
  | nil => simp at h
  | append_singleton ops op ih =>
      rw [run_concat] at hx ⊢
      by_cases hop : op = .retire
      · subst hop
        cases hcurrent : (x.run ops).current with
        | none =>
            rw [step, retire_of_idle hcurrent, isRunning, hcurrent] at hx
            simp at hx
        | some e => exact carried?_retire (by simp [hcurrent])
      · have hmem : .retire ∈ ops := by
          rcases List.mem_append.1 h with h | h
          · exact h
          · exact absurd (List.mem_singleton.1 h).symm hop
        obtain ⟨y, hy, hstep⟩ := step_eq (x.run ops) hop
        have hcarried : ((x.run ops).step op).carried? = (x.run ops).carried? := by
          rw [hstep, carried?_scheduleAll, hy.carried]
        have hrun : (x.run ops).isRunning = true := by
          have := congrArg Option.isSome hcarried
          rw [carried?, carried?, Option.isSome_map, Option.isSome_map] at this
          exact this.symm.trans hx
        rw [hcarried, ih hmem hrun, hstep, plan_scheduleAll, hy.plan]

theorem exists_offered_of_ranLater (hx : x.plan = none ∧ x.queue = []) {q : Plan}
    (h : RanLater x ops q) : ∃ p t f, Offered x ops p t f ∧ q = p.put t f := by
  obtain ⟨pre, ⟨rest, rfl⟩, hretire, hq⟩ := h
  have hrun : (x.run pre).isRunning = true := by
    rw [isRunning, ← Option.isSome_map (f := (·.faults))]
    exact Option.isSome_of_mem hq
  have hplan : (x.run pre).plan = some q := (carried?_run_of_mem hretire hrun).symm.trans hq
  have hmem : q ∈ (x.run pre).plan.toList ++ (x.run pre).queue := by simp [hplan]
  obtain ⟨p, t, f, hoffer, hpq⟩ := exists_offered hx hmem
  exact ⟨p, t, f, hoffer.append rest, hpq⟩

/-- When no execution is left, every fault that was offered for a call was tried: an execution ran
with the faults at hand and this one.  Every execution but the first is one of these. -/
theorem exhaustive (analysis : Option Analysis) (lenient : Bool) (ops : List Op) :
    (((start analysis lenient).run ops).isRunning = false →
      ∀ p t f, Offered (start analysis lenient) ops p t f →
        ∃ q, Ran (start analysis lenient) ops q ∧ q.Agrees (p.put t f)) ∧
    ∀ q, RanLater (start analysis lenient) ops q →
      ∃ p t f, Offered (start analysis lenient) ops p t f ∧ q = p.put t f := by
  constructor
  · intro hidle p t f hoffer
    exact exists_ran_of_offered (sound_start analysis lenient) rfl hidle hoffer
  · intro q hq
    exact exists_offered_of_ranLater ⟨rfl, rfl⟩ hq

/-- A call with two faults to try, until no execution is left. -/
def twoOffers : List Op :=
  [.register ruledCall, .complete furtherMutation, .retire, .retire, .retire]

theorem exhaustive_twoOffers :
    let x := start (some failing) false
    (x.run twoOffers).isRunning = false ∧
      (∀ f ∈ [.exception ⟨"E", .empty⟩, .ofTransformer .text],
        Offered x twoOffers .empty [("k", 1)] f ∧
          ∃ q, Ran x twoOffers q ∧ q.Agrees (Ledger.put .empty [("k", 1)] f)) ∧
      ∃ q, RanLater x twoOffers q ∧ ∃ p t f, Offered x twoOffers p t f ∧ q = p.put t f := by
  intro x
  obtain ⟨hall, honly⟩ := exhaustive (some failing) false twoOffers
  have hidle : (x.run twoOffers).isRunning = false := by decide +kernel
  refine ⟨hidle, fun f hf => ?_, ?_⟩
  · have hoffer : Offered x twoOffers .empty [("k", 1)] f := by
      simp only [List.mem_cons, List.not_mem_nil, or_false] at hf
      rcases hf with rfl | rfl
      · refine ⟨[], .register ruledCall, ⟨_, rfl⟩, rfl, ?_⟩
        simp [offers, x, start, trailOf_ruledCall, candidates_ruledCall]
      · refine ⟨[.register ruledCall], .complete furtherMutation, ⟨_, rfl⟩, by cbv, ?_⟩
        simp [offers, trailOf_furtherMutation, continuation?_furtherMutation]
    exact ⟨hoffer, hall hidle _ _ f hoffer⟩
  · have hrun : (x.run (twoOffers.take 3)).isRunning = true := by decide +kernel
    obtain ⟨e, he⟩ := Option.isSome_iff_exists.1 hrun
    have hlater : RanLater x twoOffers e.faults :=
      ⟨twoOffers.take 3, List.take_prefix 3 _, by simp [twoOffers], by rw [carried?, he]; rfl⟩
    exact ⟨_, hlater, honly _ hlater⟩

end Explorer

end Faultline
