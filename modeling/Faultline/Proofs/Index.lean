import Faultline.Proofs.Extension

/-!
# What a name does to an index

An index that names a call shows its trail extended by the key, and afterwards the trail that it
showed before; only the counter of the key has gone on (`name_spec`).  The counters of an index
that arrives as a trail are the largest counts of its keys.
-/

namespace Faultline

namespace Index

theorem toNat_max (m n : UInt64) : (max m n).toNat = max m.toNat n.toNat := by
  change (if m ≤ n then n else m).toNat = _
  rw [Nat.max_def]
  by_cases h : m ≤ n
  · rw [if_pos h, if_pos (UInt64.le_iff_toNat_le.1 h)]
  · rw [if_neg h, if_neg fun hle => h (UInt64.le_iff_toNat_le.2 hle)]

theorem counter_foldl (t : Trail) (m : Table UInt64) (key : String) :
    ((((t.foldl (fun m e => m.insert e.1 (max ((m.get? e.1).getD 0) e.2)) m).get? key).getD
      0).toNat : Nat) =
      t.foldl (fun n e => if e.1 = key then max n e.2.toNat else n)
        ((m.get? key).getD 0).toNat := by
  induction t generalizing m with
  | nil => rfl
  | cons e t ih =>
      rw [List.foldl_cons, List.foldl_cons, ih]
      congr 1
      by_cases h : e.1 = key
      · subst h
        simp [toNat_max]
      · simp [h, Ne.symm h]

theorem counter_ofTrail (t : Trail) (key : String) :
    ((ofTrail t).counter key).toNat = t.maxCount key :=
  counter_foldl t Table.empty key

theorem toNat_add_one {n : UInt64} (h : n ≠ 0xFFFFFFFFFFFFFFFF) : (n + 1).toNat = n.toNat + 1 := by
  have hne : n.toNat ≠ 2 ^ 64 - 1 := fun heq => h (UInt64.toNat_inj.1 heq)
  have hbound := n.toNat_lt
  rw [UInt64.toNat_add]
  simp
  omega

theorem counters_pushCounted (i : Index) (key : Key) (n : UInt64) :
    (i.pushCounted key n).counters = i.counters.insert key.rendered n := by
  unfold pushCounted
  split
  · split <;> rfl
  · rfl

theorem counter_pushCounted (i : Index) (key : Key) (n : UInt64) (k : String) :
    (i.pushCounted key n).counter k = if k = key.rendered then n else i.counter k := by
  rw [counter, counters_pushCounted, Table.get?_insert]
  split <;> rfl

/-- A push takes the number that comes next. -/
theorem exists_of_push {i j : Index} {key : Key} (h : i.push key = .ok j) :
    ∃ n : UInt64, n.toNat = (i.counter key.rendered).toNat + 1 ∧ j = i.pushCounted key n := by
  unfold push at h
  dsimp only at h
  split at h
  · cases h
  · next hroom => exact ⟨_, toNat_add_one hroom, (Except.ok.inj h).symm⟩

theorem topKey?_trail (i : Index) : i.trail.topKey? = i.frames.head?.map (·.1.rendered) := by
  simp [trail, Trail.topKey?, List.getLast?_reverse]
  rfl

/-- A push extends the trail. -/
theorem trail_pushCounted_eq (i : Index) (key : Key) (n : UInt64) :
    (i.pushCounted key n).trail = i.trail.extend key.rendered n := by
  unfold pushCounted Trail.extend Trail.stem
  rw [topKey?_trail]
  cases hframes : i.frames with
  | nil => simp [trail, hframes]
  | cons f below =>
      obtain ⟨top, previous⟩ := f
      by_cases h : top.rendered = key.rendered
      · simp [trail, hframes, h]
      · simp [trail, hframes, h]

/-- The pop after a push leaves an index as it was, but for the counter of the key. -/
theorem pop_pushCounted (i : Index) (key : Key) (n : UInt64) :
    (i.pushCounted key n).pop = .ok { i with counters := i.counters.insert key.rendered n } := by
  obtain ⟨frames, counters, journal⟩ := i
  unfold pushCounted
  cases frames with
  | nil => rfl
  | cons f below =>
      obtain ⟨top, previous⟩ := f
      by_cases h : top.rendered = key.rendered
      · simp [h, pop]
      · simp [h, pop]

/-- A counter that is not at its end gives a name. -/
theorem exists_name {i : Index} {key : Key}
    (hroom : i.counter key.rendered ≠ 0xFFFFFFFFFFFFFFFF) :
    ∃ after, i.name key = .ok (i.pushCounted key (i.counter key.rendered + 1), after) ∧
      after.frames = i.frames ∧
      after.counters = i.counters.insert key.rendered (i.counter key.rendered + 1) := by
  refine ⟨{ i with counters := i.counters.insert key.rendered (i.counter key.rendered + 1) }, ?_,
    rfl, rfl⟩
  simp only [name, push, if_neg hroom, bind, Except.bind, pop_pushCounted]
  rfl

/-- The name of a call and the index to go on with. -/
theorem name_spec {i named after : Index} {key : Key} (h : i.name key = .ok (named, after)) :
    ∃ n : UInt64, n.toNat = (i.counter key.rendered).toNat + 1 ∧
      named.trail = i.trail.extend key.rendered n ∧ after.trail = i.trail ∧
      ∀ k, after.counter k = if k = key.rendered then n else i.counter k := by
  by_cases hfull : i.counter key.rendered = 0xFFFFFFFFFFFFFFFF
  · simp only [name, push, if_pos hfull, bind, Except.bind] at h
    cases h
  · obtain ⟨popped, hnamed, hframes, hcounters⟩ := exists_name hfull
    rw [hnamed] at h
    cases h
    refine ⟨i.counter key.rendered + 1, toNat_add_one hfull, trail_pushCounted_eq i key _, ?_,
      fun k => ?_⟩
    · rw [trail, hframes]
      rfl
    · rw [counter, hcounters, Table.get?_insert]
      by_cases hk : k = key.rendered <;> simp [hk, counter]

end Index

end Faultline
