import Faultline.Proofs.Explorer.Menu
import Faultline.Proofs.Explorer.Started

/-!
# How long exploration takes

An explorer that is offered the faults of a menu carries out plans from the menu only, each at
most once, and so stops.  Where every execution is offered the whole menu, a fault more for each
call at a time reaches every assignment: exploration takes exactly as many executions as the menu
has assignments.
-/

namespace Faultline

namespace Explorer

variable {x : Explorer} {ops ops' : List Op} {m : Menu} {p : Plan}

/-- All that operations offer, in order. -/
def offered (x : Explorer) : List Op → List (Trail × Fault)
  | [] => []
  | op :: ops => x.offers op ++ offered (x.step op) ops

theorem offered_append (x : Explorer) (ops ops' : List Op) :
    x.offered (ops ++ ops') = x.offered ops ++ (x.run ops).offered ops' := by
  induction ops generalizing x with
  | nil => rfl
  | cons op ops ih =>
      simp only [List.cons_append, offered, ih, List.append_assoc]
      rfl

theorem offered_concat (x : Explorer) (ops : List Op) (op : Op) :
    x.offered (ops ++ [op]) = x.offered ops ++ (x.run ops).offers op := by
  rw [offered_append, offered, offered, List.append_nil]

/-! ### Executions and what is carried out -/

theorem executions_append_of_not_mem (x : Explorer) (ops : List Op) (h : .retire ∉ ops') :
    x.executions (ops ++ ops') = x.executions ops := by
  induction ops' using List.reverseRecOn with
  | nil => rw [List.append_nil]
  | append_singleton ops' op ih =>
      have hop : op ≠ .retire := by
        rintro rfl
        exact h (by simp)
      rw [← List.append_assoc, executions_concat_of_ne _ _ hop]
      exact ih fun hmem => h (List.mem_append.2 (.inl hmem))

theorem carried?_run_of_not_mem (x : Explorer) (h : .retire ∉ ops) :
    (x.run ops).carried? = x.carried? := by
  induction ops using List.reverseRecOn with
  | nil => rfl
  | append_singleton ops op ih =>
      have hop : op ≠ .retire := by
        rintro rfl
        exact h (by simp)
      obtain ⟨y, hy, hstep⟩ := step_eq (x.run ops) hop
      rw [run_concat, hstep, carried?_scheduleAll, hy.carried]
      exact ih fun hmem => h (List.mem_append.2 (.inl hmem))

theorem executions_subset (x : Explorer) (h : ops <+: ops') :
    x.executions ops ⊆ x.executions ops' := by
  obtain ⟨rest, rfl⟩ := h
  induction rest using List.reverseRecOn with
  | nil => rw [List.append_nil]; exact List.Subset.refl _
  | append_singleton rest op ih =>
      rw [← List.append_assoc, executions_concat]
      exact fun p hp => List.mem_append.2 (.inl (ih hp))

/-- The execution at hand is one of those that were started. -/
theorem mem_executions_of_carried (h : (x.run ops).carried? = some p) : p ∈ x.executions ops := by
  induction ops using List.reverseRecOn with
  | nil =>
      rw [run_nil] at h
      rw [executions_nil, h]
      exact List.mem_singleton_self p
  | append_singleton ops op ih =>
      by_cases hop : op = .retire
      · subst hop
        rw [run_concat, step] at h
        rw [executions_concat, begun, h]
        exact List.mem_append.2 (.inr (List.mem_singleton_self p))
      · rw [executions_concat_of_ne _ _ hop]
        obtain ⟨y, hy, hstep⟩ := step_eq (x.run ops) hop
        rw [run_concat, hstep, carried?_scheduleAll, hy.carried] at h
        exact ih h

theorem mem_executions_of_ran (h : Ran x ops p) : p ∈ x.executions ops := by
  obtain ⟨pre, hpre, hp⟩ := h
  exact executions_subset x hpre (mem_executions_of_carried hp)

/-! ### The bound -/

/-- What is offered from the menu makes plans from the menu. -/
theorem covers_run (analysis : Option Analysis) (lenient : Bool)
    (h : ∀ o ∈ (start analysis lenient).offered ops, m.Has o.1 o.2) :
    ∀ p ∈ (start analysis lenient).executions ops ++ ((start analysis lenient).run ops).queue,
      m.Covers p := by
  induction ops using List.reverseRecOn with
  | nil =>
      intro p hp
      obtain rfl : p = .empty := List.mem_singleton.1 hp
      exact m.covers_empty
  | append_singleton ops op ih =>
      rw [offered_concat] at h
      have ih := ih fun o ho => h o (List.mem_append.2 (.inl ho))
      intro p hp
      rw [run_concat] at hp
      by_cases hop : op = .retire
      · subst hop
        rw [executions_concat, begun, step] at hp
        cases hcurrent : ((start analysis lenient).run ops).current with
        | none =>
            rw [retire_of_idle hcurrent, carried?, hcurrent, Option.map_none, Option.toList_none,
              List.append_nil] at hp
            exact ih p hp
        | some e =>
            rw [List.append_assoc, append_queue_retire (by simp [hcurrent])] at hp
            exact ih p hp
      · rw [executions_concat_of_ne _ _ hop] at hp
        obtain ⟨y, hy, hstep⟩ := step_eq ((start analysis lenient).run ops) hop
        rw [hstep] at hp
        rcases List.mem_append.1 hp with hp | hp
        · exact ih p (List.mem_append.2 (.inl hp))
        · rcases mem_queue_scheduleAll hp with hp | ⟨q, hq, o, ho, rfl⟩
          · exact ih p (List.mem_append.2 (.inr (hy.queue ▸ hp)))
          · have hmem := mem_executions_of_carried (hy.carried.symm.trans hq)
            exact (ih q (List.mem_append.2 (.inl hmem))).put (h o (List.mem_append.2 (.inr ho)))

theorem length_executions_le (analysis : Option Analysis) (lenient : Bool)
    (h : ∀ o ∈ (start analysis lenient).offered ops, m.Has o.1 o.2) :
    ((start analysis lenient).executions ops).length ≤ m.size := by
  have hdifferent := (fresh_run analysis lenient ops).different
  refine Menu.length_le_size (List.pairwise_append.1 hdifferent).1 fun p hp => ?_
  exact covers_run analysis lenient h p (List.mem_append.2 (.inl hp))

/-! ### Round after round -/

/-- A test with what it does in each execution, which is then retired. -/
def rounds (test : Nat → List Op) : Nat → List Op
  | 0 => []
  | n + 1 => rounds test n ++ (test n ++ [.retire])

/-- In an execution the whole menu is offered, and nothing else. -/
structure Serves (m : Menu) (x : Explorer) (ops : List Op) : Prop where
  has : ∀ o ∈ x.offered ops, m.Has o.1 o.2
  all : ∀ t ∈ m.calls, ∀ f ∈ m.faults t, ∃ g, (t, g) ∈ x.offered ops ∧ f.same g = true

variable {test : Nat → List Op}

theorem executions_rounds (x : Explorer) (htest : ∀ n, .retire ∉ test n) (n : Nat) :
    x.executions (rounds test (n + 1)) =
      x.executions (rounds test n) ++ (x.run (rounds test (n + 1))).carried?.toList := by
  rw [rounds, ← List.append_assoc, executions_concat, executions_append_of_not_mem _ _ (htest n),
    run_concat]
  rfl

/-- Every execution is at hand at the start of a round. -/
theorem exists_round (htest : ∀ n, .retire ∉ test n) {n : Nat}
    (h : p ∈ x.executions (rounds test n)) :
    ∃ k ≤ n, (x.run (rounds test k)).carried? = some p := by
  induction n with
  | zero =>
      rw [rounds, executions_nil] at h
      exact ⟨0, le_rfl, Option.mem_toList.1 h⟩
  | succ n ih =>
      rw [executions_rounds x htest] at h
      rcases List.mem_append.1 h with h | h
      · obtain ⟨k, hk, hp⟩ := ih h
        exact ⟨k, Nat.le_succ_of_le hk, hp⟩
      · exact ⟨n + 1, le_rfl, Option.mem_toList.1 h⟩

theorem rounds_mono (test : Nat → List Op) {k n : Nat} (h : k ≤ n) :
    rounds test k <+: rounds test n := by
  induction h with
  | refl => exact List.prefix_rfl
  | step _ ih => exact ih.trans (List.prefix_append _ _)

/-- What is offered is offered by one of the operations. -/
theorem exists_offers_of_mem {o : Trail × Fault} (h : o ∈ x.offered ops) :
    ∃ pre op, pre ++ [op] <+: ops ∧ o ∈ (x.run pre).offers op := by
  induction ops generalizing x with
  | nil => cases h
  | cons op ops ih =>
      rcases List.mem_append.1 h with h | h
      · exact ⟨[], op, List.prefix_append [op] ops, h⟩
      · obtain ⟨pre, op', hpre, ho⟩ := ih h
        exact ⟨op :: pre, op', (List.prefix_cons_inj op).2 hpre, ho⟩

theorem offered_of_round (htest : ∀ n, .retire ∉ test n) {k n : Nat} (hk : k < n) {t : Trail}
    {f : Fault} (hp : (x.run (rounds test k)).carried? = some p)
    (ho : (t, f) ∈ (x.run (rounds test k)).offered (test k)) :
    Offered x (rounds test n) p t f := by
  obtain ⟨pre, op, hpre, ho⟩ := exists_offers_of_mem ho
  have hround : rounds test k ++ test k <+: rounds test (k + 1) :=
    ⟨[.retire], by rw [rounds, List.append_assoc]⟩
  refine ⟨rounds test k ++ pre, op, ?_, ?_, ?_⟩
  · rw [List.append_assoc]
    exact (((List.prefix_append_right_inj _).2 hpre).trans hround).trans (rounds_mono test hk)
  · have hmem : .retire ∉ pre := fun hmem =>
      htest k (hpre.subset (List.mem_append.2 (.inl hmem)))
    rw [run_append, carried?_run_of_not_mem _ hmem, hp]
  · rw [run_append]
    exact ho

variable {analysis : Option Analysis} {lenient : Bool}

theorem offered_rounds (n : Nat)
    (hserves : ∀ k < n, Serves m ((start analysis lenient).run (rounds test k)) (test k)) :
    ∀ o ∈ (start analysis lenient).offered (rounds test n), m.Has o.1 o.2 := by
  induction n with
  | zero =>
      intro o ho
      cases ho
  | succ n ih =>
      intro o ho
      rw [rounds, offered_append, offered_concat] at ho
      simp only [offers, List.append_nil] at ho
      rcases List.mem_append.1 ho with ho | ho
      · exact ih (fun k hk => hserves k (Nat.lt_succ_of_lt hk)) o ho
      · exact (hserves n (Nat.lt_succ_self n)).has o ho

theorem length_executions_rounds (htest : ∀ n, .retire ∉ test n) {n : Nat}
    (hrun : ∀ k ≤ n, ((start analysis lenient).run (rounds test k)).isRunning = true) :
    ((start analysis lenient).executions (rounds test n)).length = n + 1 := by
  induction n with
  | zero => rfl
  | succ n ih =>
      have hrun' := hrun (n + 1) le_rfl
      obtain ⟨e, he⟩ := Option.isSome_iff_exists.1 hrun'
      rw [executions_rounds _ htest, List.length_append,
        ih fun k hk => hrun k (Nat.le_succ_of_le hk), carried?, he]
      rfl

/-- Every assignment is reached from the one without faults, one call after the other. -/
theorem exists_carries (htest : ∀ n, .retire ∉ test n) {n : Nat}
    (hserves : ∀ k < n, Serves m ((start analysis lenient).run (rounds test k)) (test k))
    (hidle : ((start analysis lenient).run (rounds test n)).isRunning = false)
    {a : Trail → Option Fault} (ha : m.Assigns a) (s : Finset Trail) :
    ∃ p ∈ (start analysis lenient).executions (rounds test n),
      p.Carries fun t => if t ∈ s then a t else none := by
  induction s using Finset.induction_on with
  | empty =>
      refine ⟨.empty, List.mem_append.2 (.inl (List.mem_singleton_self _)), fun t => ?_⟩
      simp [Fault.sameOption]
  | insert t s ht ih =>
      obtain ⟨p, hp, hcarries⟩ := ih
      cases hat : a t with
      | none =>
          refine ⟨p, hp, fun u => ?_⟩
          have hu := hcarries u
          by_cases hut : u = t
          · simpa [hut, hat, ht] using hu
          · simpa [Finset.mem_insert, hut] using hu
      | some f =>
          obtain ⟨k, hk, hpk⟩ := exists_round htest hp
          have hne : k ≠ n := by
            rintro rfl
            have hrun := Option.isSome_of_mem hpk
            rw [carried?, Option.isSome_map] at hrun
            exact Bool.noConfusion (hrun.symm.trans hidle)
          have hlt : k < n := lt_of_le_of_ne hk hne
          obtain ⟨g, hg, hsame⟩ := (hserves k hlt).all t (ha t f hat).1 f (ha t f hat).2
          obtain ⟨q, hran, hagrees⟩ := exists_ran_of_offered (sound_start analysis lenient) rfl
            hidle (offered_of_round htest hlt hpk hg)
          refine ⟨q, mem_executions_of_ran hran, Plan.carries_iff.2 fun u => ?_⟩
          rw [Plan.agrees_iff.1 hagrees u, Ledger.get?_put]
          by_cases hut : u = t
          · simp [hut, hat, Fault.same_iff.1 hsame]
          · simpa [Finset.mem_insert, hut] using Plan.carries_iff.1 hcarries u

/-- The executions of a test that went on until none was left. -/
theorem length_executions_of_idle (htest : ∀ n, .retire ∉ test n) {n : Nat}
    (hrun : ∀ k < n, ((start analysis lenient).run (rounds test k)).isRunning = true)
    (hidle : ((start analysis lenient).run (rounds test n)).isRunning = false) :
    ((start analysis lenient).executions (rounds test n)).length = n := by
  cases n with
  | zero => exact Bool.noConfusion hidle
  | succ n =>
      have hnone : ((start analysis lenient).run (rounds test (n + 1))).carried? = none := by
        rw [carried?, Option.map_eq_none_iff]
        exact Option.isNone_iff_eq_none.1 (Option.isSome_eq_false_iff.1 hidle)
      rw [executions_rounds _ htest, hnone, Option.toList_none, List.append_nil]
      exact length_executions_rounds htest fun k hk => hrun k (Nat.lt_succ_of_le hk)

theorem exists_carries_of_assigns (htest : ∀ n, .retire ∉ test n) {n : Nat}
    (hserves : ∀ k < n, Serves m ((start analysis lenient).run (rounds test k)) (test k))
    (hidle : ((start analysis lenient).run (rounds test n)).isRunning = false)
    {a : Trail → Option Fault} (ha : m.Assigns a) :
    ∃ p ∈ (start analysis lenient).executions (rounds test n), p.Carries a := by
  have hrestrict : (fun t => if t ∈ m.calls then a t else none) = a := by
    funext t
    by_cases ht : t ∈ m.calls
    · rw [if_pos ht]
    · rw [if_neg ht]
      cases hat : a t with
      | none => rfl
      | some f => exact absurd (ha t f hat).1 ht
  have hall := exists_carries htest hserves hidle ha m.calls
  rwa [hrestrict] at hall

/-- Where every execution is offered the whole menu, exploration ends after as many executions as
there are assignments. -/
theorem rounds_end (hm : m.Distinct) (htest : ∀ n, .retire ∉ test n)
    (hserves : ∀ n, ((start analysis lenient).run (rounds test n)).isRunning = true →
      Serves m ((start analysis lenient).run (rounds test n)) (test n)) :
    (∀ n < m.size, ((start analysis lenient).run (rounds test n)).isRunning = true) ∧
      ((start analysis lenient).run (rounds test m.size)).isRunning = false := by
  have hbound : ∀ n,
      (∀ k < n, ((start analysis lenient).run (rounds test k)).isRunning = true) →
      ((start analysis lenient).executions (rounds test n)).length ≤ m.size := fun n hrun =>
    length_executions_le analysis lenient (offered_rounds n fun k hk => hserves k (hrun k hk))
  have hends : ∃ n, ((start analysis lenient).run (rounds test n)).isRunning = false := by
    by_contra hnever
    have hrun : ∀ n, ((start analysis lenient).run (rounds test n)).isRunning = true := fun n =>
      eq_true_of_ne_false fun hidle => hnever ⟨n, hidle⟩
    have hlength : ((start analysis lenient).executions (rounds test m.size)).length =
        m.size + 1 := length_executions_rounds htest fun k _ => hrun k
    have hle := hbound m.size fun k _ => hrun k
    omega
  -- the first round that finds no execution
  obtain ⟨n, hidle, hrun⟩ : ∃ n,
      ((start analysis lenient).run (rounds test n)).isRunning = false ∧
      ∀ k < n, ((start analysis lenient).run (rounds test k)).isRunning = true :=
    ⟨Nat.find hends, Nat.find_spec hends, fun k hk =>
      eq_true_of_ne_false (Nat.find_min hends hk)⟩
  have hlength := length_executions_of_idle htest hrun hidle
  have hle : n ≤ m.size := hlength ▸ hbound n hrun
  have hge : m.size ≤ n := hlength ▸ Menu.size_le_length hm fun a ha =>
    exists_carries_of_assigns htest (fun k hk => hserves k (hrun k hk)) hidle ha
  obtain rfl : n = m.size := le_antisymm hle hge
  exact ⟨hrun, hidle⟩

/-- Exploration ends, and its length is exact.  Where all that is ever offered is on a menu, at
most as many executions are started as the menu has assignments of at most one fault to each call,
whatever the operations are.  Where moreover every execution is offered the whole menu and is then
retired, exactly as many are started, one for each assignment, and then none is left. -/
theorem length_exact (analysis : Option Analysis) (lenient : Bool) (m : Menu) :
    (∀ ops, (∀ o ∈ (start analysis lenient).offered ops, m.Has o.1 o.2) →
      ((start analysis lenient).executions ops).length ≤ m.size) ∧
    ∀ test : Nat → List Op, m.Distinct → (∀ n, .retire ∉ test n) →
      (∀ n, ((start analysis lenient).run (rounds test n)).isRunning = true →
        Serves m ((start analysis lenient).run (rounds test n)) (test n)) →
      (∀ n < m.size, ((start analysis lenient).run (rounds test n)).isRunning = true) ∧
      ((start analysis lenient).run (rounds test m.size)).isRunning = false ∧
      ((start analysis lenient).executions (rounds test m.size)).length = m.size ∧
      (∀ p ∈ (start analysis lenient).executions (rounds test m.size),
        ∃ a, m.Assigns a ∧ p.Carries a) ∧
      ∀ a, m.Assigns a →
        ∃! p, p ∈ (start analysis lenient).executions (rounds test m.size) ∧ p.Carries a := by
  refine ⟨fun ops h => length_executions_le analysis lenient h, fun test hm htest hserves => ?_⟩
  obtain ⟨hrun, hidle⟩ := rounds_end hm htest hserves
  have hserved : ∀ k < m.size,
      Serves m ((start analysis lenient).run (rounds test k)) (test k) :=
    fun k hk => hserves k (hrun k hk)
  have hcovers := covers_run analysis lenient (offered_rounds m.size hserved)
  have hdifferent := (fresh_run analysis lenient (rounds test m.size)).different
  refine ⟨hrun, hidle, length_executions_of_idle htest hrun hidle, fun p hp => ?_, fun a ha => ?_⟩
  · exact ⟨_, m.assigns_assignment _,
      Menu.carries_assignment (hcovers p (List.mem_append.2 (.inl hp)))⟩
  · obtain ⟨p, hp, hcarries⟩ := exists_carries_of_assigns htest hserved hidle ha
    refine ⟨p, ⟨hp, hcarries⟩, fun q ⟨hq, hcarries'⟩ => ?_⟩
    by_contra hne
    have hsymm : Std.Symm fun p q : Plan => ¬ p.Agrees q := ⟨fun _ _ h h' => h h'.symm⟩
    exact (List.pairwise_append.1 hdifferent).1.forall hq hp hne (hcarries'.agrees hcarries)

/-- One call with the two faults that `failing` and a mutation offer for it. -/
def twoFaults : Menu :=
  ⟨{[("k", 1)]}, fun _ => [.exception ⟨"E", .empty⟩, .ofTransformer .text]⟩

/-- The call and its completion. -/
def completedCall : List Op :=
  [.register ruledCall, .complete furtherMutation]

theorem distinct_twoFaults : twoFaults.Distinct := by
  intro t
  rw [twoFaults, List.pairwise_pair]
  decide

theorem offered_completedCall {x : Explorer} (h : x.analysis = some failing) :
    x.offered completedCall =
      [([("k", 1)], .exception ⟨"E", .empty⟩), ([("k", 1)], .ofTransformer .text)] := by
  simp [completedCall, offered, offers, h, trailOf_ruledCall, candidates_ruledCall,
    trailOf_furtherMutation, continuation?_furtherMutation]

theorem serves_completedCall {x : Explorer} (h : x.analysis = some failing) :
    Serves twoFaults x completedCall := by
  refine ⟨fun o ho => ?_, fun t ht f hf => ?_⟩
  · simp only [offered_completedCall h, List.mem_cons, List.not_mem_nil, or_false] at ho
    rcases ho with rfl | rfl
    · exact ⟨Finset.mem_singleton_self _, _, List.mem_cons_self, Fault.same_refl _⟩
    · exact ⟨Finset.mem_singleton_self _, _, List.mem_cons_of_mem _ List.mem_cons_self,
        Fault.same_refl _⟩
  · obtain rfl := Finset.mem_singleton.1 ht
    refine ⟨f, ?_, Fault.same_refl f⟩
    simp only [twoFaults, List.mem_cons, List.not_mem_nil, or_false] at hf
    simp only [offered_completedCall h]
    rcases hf with rfl | rfl
    · exact List.mem_cons_self
    · exact List.mem_cons_of_mem _ List.mem_cons_self

theorem load_not_mem_rounds {test : Nat → List Op} {document : Json}
    (h : ∀ n, .load document ∉ test n) (n : Nat) : .load document ∉ rounds test n := by
  induction n with
  | zero => simp [rounds]
  | succ n ih => simp [rounds, ih, h n]

theorem length_exact_twoFaults :
    let x := start (some failing) false
    let test := fun _ : Nat => completedCall
    (∀ o ∈ x.offered completedCall, twoFaults.Has o.1 o.2) ∧ twoFaults.Distinct ∧
      (∀ n, .retire ∉ test n) ∧
      (∀ n, (x.run (rounds test n)).isRunning = true →
        Serves twoFaults (x.run (rounds test n)) (test n)) ∧
      (x.executions completedCall).length ≤ 3 ∧ (x.run (rounds test 3)).isRunning = false ∧
      (x.executions (rounds test 3)).length = 3 := by
  intro x test
  have hretire : ∀ n, .retire ∉ test n := by simp [test, completedCall]
  have hload : ∀ document n, .load document ∉ test n := by simp [test, completedCall]
  have hserves : ∀ n, Serves twoFaults (x.run (rounds test n)) (test n) := fun n =>
    serves_completedCall (x.analysis_run fun document => load_not_mem_rounds (hload document) n)
  have hhas := (serves_completedCall (x := x) rfl).has
  have hsize : twoFaults.size = 3 := by simp [Menu.size, twoFaults]
  obtain ⟨hbound, hexact⟩ := length_exact (some failing) false twoFaults
  obtain ⟨-, hidle, hlength, -⟩ :=
    hexact test distinct_twoFaults hretire fun n _ => hserves n
  rw [hsize] at hidle hlength
  exact ⟨hhas, distinct_twoFaults, hretire, fun n _ => hserves n, hsize ▸ hbound _ hhas, hidle,
    hlength⟩

end Explorer

end Faultline
