import Faultline.Proofs.Clock

/-!
# Comparisons of clocks

Clocks are compared by their counters alone, a missing counter being zero, and so the comparison is
a partial order of counters rather than of clocks.  It is one of clocks where no counter is zero, as
in all clocks that have grown from the empty one (`Grown`): those are equal in order exactly when
they are equal (`compare_partial_order`).
-/

namespace Faultline

namespace Clock

/-! ### The order of two clocks -/

/-- The order of two clocks the other way round. -/
def Order.swap : Order → Order
  | .before => .after
  | .after => .before
  | .equal => .equal
  | .concurrent => .concurrent

theorem compare_swap (c d : Clock) : d.compare c = (c.compare d).swap := by
  unfold compare
  cases c.descends d <;> cases d.descends c <;> rfl

theorem compare_eq_equal_iff {c d : Clock} : c.compare d = .equal ↔ ∀ s, c.get s = d.get s := by
  have hboth : c.compare d = .equal ↔ d.descends c = true ∧ c.descends d = true := by
    unfold compare
    cases d.descends c <;> cases c.descends d <;> decide
  rw [hboth, descends_iff, descends_iff, ← forall_and]
  refine forall_congr' fun s => ⟨fun h => UInt64.le_antisymm h.1 h.2, fun h => ?_⟩
  rw [h]
  exact ⟨UInt64.le_refl _, UInt64.le_refl _⟩

theorem compare_self (c : Clock) : c.compare c = .equal :=
  compare_eq_equal_iff.2 fun _ => rfl

/-- How the comparisons of two clocks belong together. -/
structure Compared (c d : Clock) : Prop where
  /-- Clocks are equal in order when their counters are. -/
  equal : c.compare d = .equal ↔ ∀ s, c.get s = d.get s
  mirrored : (c.compare d = .before ↔ d.compare c = .after) ∧
    (c.compare d = .after ↔ d.compare c = .before)
  ordering : (c.ordering? d = some .eq ↔ c.compare d = .equal) ∧
    (c.ordering? d = some .lt ↔ c.compare d = .before) ∧
    (c.ordering? d = some .gt ↔ c.compare d = .after) ∧
    (c.ordering? d = none ↔ c.compare d = .concurrent)
  dominates : c.dominates d = true ↔ c.compare d = .after
  isDominatedBy : c.isDominatedBy d = true ↔ c.compare d = .before

theorem compared (c d : Clock) : Compared c d where
  equal := compare_eq_equal_iff
  mirrored := by
    rw [compare_swap c d]
    cases c.compare d <;> decide
  ordering := by
    unfold ordering?
    cases c.compare d <;> decide
  dominates := beq_iff_eq
  isDominatedBy := by
    rw [isDominatedBy, dominates, compare_swap c d]
    cases c.compare d <;> decide

/-! ### Ticks -/

theorem bump_full : bump 0xFFFFFFFFFFFFFFFF = 0xFFFFFFFFFFFFFFFF := rfl

theorem compare_tick (c : Clock) (s : String) : c.compare (c.tick s) =
    if c.get s = 0xFFFFFFFFFFFFFFFF then .equal else .before := by
  split
  · next hfull =>
    refine compare_eq_equal_iff.2 fun t => ?_
    rw [get_tick]
    split
    · next ht => rw [ht, hfull, bump_full]
    · rfl
  · next hroom =>
    refine compare_eq_before_iff.2 ⟨descends_tick c s, Bool.eq_false_iff.2 fun hge => hroom ?_⟩
    have hle := UInt64.le_iff_toNat_le.1 (descends_iff.1 hge s)
    rw [get_tick, if_pos rfl, toNat_bump] at hle
    exact UInt64.toNat_inj.1 (show _ = UInt64.size - 1 by have := (c.get s).toNat_lt_size; omega)

/-! ### Clocks that have grown from the empty one -/

/-- Clocks that are made from the empty one by ticks and merges, and by reading the text of such a
clock, strictly or not. -/
inductive Grown : Clock → Prop
  | empty : Grown empty
  | tick {c : Clock} (s : String) (hc : Grown c) : Grown (c.tick s)
  | merge {c d : Clock} (hc : Grown c) (hd : Grown d) : Grown (c.merge d)
  | mergeAll {cs : List Clock} (hcs : ∀ c ∈ cs, Grown c) : Grown (mergeAll cs)
  | reread {c d : Clock} (hc : Grown c) (hd : parse? c.text = some d) : Grown d
  | rereadLeniently {c : Clock} (hc : Grown c) : Grown (parse c.text)

theorem has_tick (c : Clock) (s t : String) : (c.tick s).has t = (c.has t || t == s) := by
  unfold has tick
  rw [Table.get?_insert]
  by_cases h : t = s <;> simp [h]

theorem bump_ne_zero (n : UInt64) : bump n ≠ 0 := fun h => by
  have hn := toNat_bump n
  have hsize : UInt64.size = 2 ^ 64 := rfl
  rw [h, UInt64.toNat_zero] at hn
  omega

theorem get_merge_eq_zero_iff {c d : Clock} {s : String} :
    (c.merge d).get s = 0 ↔ c.get s = 0 ∧ d.get s = 0 := by
  simpa only [UInt64.le_zero_iff] using get_merge_le_iff (n := 0)

theorem get_mergeAll_eq_zero_iff {cs : List Clock} {s : String} :
    (mergeAll cs).get s = 0 ↔ ∀ c ∈ cs, c.get s = 0 := by
  simpa only [UInt64.le_zero_iff] using get_mergeAll_le_iff (n := 0)

namespace Grown

/-- There is a counter for a service exactly where it is not zero. -/
theorem has_iff {c : Clock} (h : Grown c) (s : String) : c.has s = true ↔ c.get s ≠ 0 := by
  induction h with
  | empty => exact ⟨fun h => Bool.noConfusion h, fun h => absurd rfl h⟩
  | @tick c t _ ih =>
      rw [has_tick, get_tick]
      by_cases hs : s = t
      · simp [hs, bump_ne_zero]
      · simpa [hs] using ih
  | merge _ _ ihc ihd =>
      rw [has_merge, Bool.or_eq_true, ihc, ihd, ← not_and_or, Ne, get_merge_eq_zero_iff]
  | mergeAll _ ih =>
      rw [has_mergeAll, Ne, get_mergeAll_eq_zero_iff, not_forall]
      refine exists_congr fun c => ?_
      rw [Classical.not_imp]
      exact and_congr_right (ih c)
  | @reread c d _ hd ih =>
      rw [parse?_text] at hd
      obtain rfl := Option.some.inj hd
      exact ih
  | rereadLeniently _ ih =>
      rw [parse_text]
      exact ih

theorem ne_zero {c : Clock} (h : Grown c) : ∀ e ∈ c.toList, e.2 ≠ 0 := by
  rintro ⟨s, n⟩ he
  have hn : c.counters.get? s = some n := Table.mem_toList_iff.1 he
  have hget : c.get s = n := by rw [get, hn, Option.getD_some]
  rw [← hget, ← h.has_iff s, has, hn]
  rfl

theorem compare_eq_equal_iff {c d : Clock} (hc : Grown c) (hd : Grown d) :
    c.compare d = .equal ↔ c = d := by
  constructor
  · intro h
    have hget := Clock.compare_eq_equal_iff.1 h
    refine ext_get (fun s => ?_) hget
    rw [Bool.eq_iff_iff, hc.has_iff, hd.has_iff, hget]
  · rintro rfl
    exact compare_self c

end Grown

/-- The comparison of clocks: a partial order of their counters, which a tick goes up in unless
the counter is full, and of the clocks themselves where they have grown from the empty one. -/
theorem compare_partial_order (a b c : Clock) :
    Compared a b ∧ a.compare a ≠ .before ∧
      (a.compare b = .before → b.compare c = .before → a.compare c = .before) ∧
      (∀ s t, a.get t ≤ (a.tick s).get t) ∧
      (∀ s, a.compare (a.tick s) = if a.get s = 0xFFFFFFFFFFFFFFFF then .equal else .before) ∧
      (Grown a → (∀ e ∈ a.toList, e.2 ≠ 0) ∧ (Grown b →
        (a.compare b = .equal ↔ a = b) ∧ (a.compare b = .equal ↔ a.text = b.text))) := by
  refine ⟨compared a b, by simp [compare_self], compare_before_trans,
    fun s => descends_iff.1 (descends_tick a s), compare_tick a,
    fun ha => ⟨ha.ne_zero, fun hb => ?_⟩⟩
  have heq := ha.compare_eq_equal_iff hb
  exact ⟨heq, heq.trans text_inj.symm⟩

/-- A clock, the same clock after a tick, and a merge with what other services have seen. -/
theorem compare_partial_order_merged :
    let a := empty.tick "api"
    let b := a.tick "db"
    let c := mergeAll [b, empty.tick "db", empty.tick "cache"]
    a.compare b = .before ∧ b.compare c = .before ∧ a.compare c = .before ∧
      Grown a ∧ Grown c ∧ (∀ e ∈ c.toList, e.2 ≠ 0) ∧
      (c.compare a = .equal ↔ c.text = a.text) := by
  intro a b c
  have hab : a.compare b = .before := by decide
  have hbc : b.compare c = .before := by decide
  have ha : Grown a := Grown.empty.tick "api"
  have hc : Grown c := .mergeAll (List.forall_mem_cons.2 ⟨ha.tick "db", List.forall_mem_cons.2
    ⟨Grown.empty.tick "db", List.forall_mem_singleton.2 (Grown.empty.tick "cache")⟩⟩)
  have hlater := (compare_partial_order a b c).2.2.1 hab hbc
  obtain ⟨hpos, hsame⟩ := (compare_partial_order c a c).2.2.2.2.2 hc
  exact ⟨hab, hbc, hlater, ha, hc, hpos, (hsame ha).2⟩

/-- A counter that is zero does not count, and makes a clock another one all the same. -/
example : (ofList [("a", 0)]).compare empty = .equal ∧ ofList [("a", 0)] ≠ empty := by decide

end Clock

end Faultline
