import Faultline.Index
import Mathlib.Data.List.Basic
import Mathlib.Data.List.Induction

/-!
# Extensions of trails

What a push makes of a trail: the key goes on top, or takes the place of the top entry where that
has the same key (`extend`).  An extension with a count above all earlier ones has a larger `rank`
than its base, and the bases of one trail are told apart by their ranks.
-/

namespace Faultline

namespace Trail

/-- The largest count of a key, zero where there is none. -/
def maxCount (key : String) (t : Trail) : Nat :=
  t.foldl (fun m e => if e.1 = key then max m e.2.toNat else m) 0

/-- The key on top. -/
def topKey? (t : Trail) : Option String :=
  t.getLast?.map (·.1)

/-- A trail without a key that is on top. -/
def stem (t : Trail) (key : String) : Trail :=
  if t.topKey? = some key then t.dropLast else t

/-- The trail after a push. -/
def extend (t : Trail) (key : String) (n : UInt64) : Trail :=
  t.stem key ++ [(key, n)]

/-- Trails by length, then by the count on top. -/
def rank (t : Trail) : Nat :=
  t.length * 0x10000000000000000 + (t.getLast?.map (·.2.toNat)).getD 0

/-! ### Largest counts -/

theorem maxCount_concat (t : Trail) (key key' : String) (n : UInt64) :
    maxCount key (t ++ [(key', n)]) =
      if key' = key then max (t.maxCount key) n.toNat else t.maxCount key := by
  simp [maxCount, List.foldl_append]

theorem le_maxCount {e : String × UInt64} {t : Trail} (h : e ∈ t) :
    e.2.toNat ≤ t.maxCount e.1 := by
  induction t using List.reverseRecOn with
  | nil => cases h
  | append_singleton t e' ih =>
      rw [maxCount_concat]
      rcases List.mem_append.1 h with ht | he
      · have hle := ih ht
        split <;> omega
      · obtain rfl := List.mem_singleton.1 he
        rw [if_pos rfl]
        exact Nat.le_max_right _ _

/-! ### Stems -/

/-- A trail is its stem, or its stem with one more entry of the key. -/
theorem stem_cases (t : Trail) (key : String) :
    t = t.stem key ∨ ∃ m, t = t.stem key ++ [(key, m)] := by
  unfold stem
  by_cases h : t.topKey? = some key
  · rw [if_pos h]
    obtain ⟨e, he, hkey⟩ := Option.map_eq_some_iff.1 h
    refine .inr ⟨e.2, ?_⟩
    rw [← hkey]
    exact (List.dropLast_append_getLast? e he).symm
  · rw [if_neg h]
    exact .inl rfl

theorem stem_concat (t : Trail) (key : String) (n : UInt64) :
    stem (t ++ [(key, n)]) key = t := by
  simp [stem, topKey?]

/-- What was pushed last is replaced by another push of the same key. -/
theorem extend_extend (t : Trail) (key : String) (m n : UInt64) :
    (t.extend key m).extend key n = t.extend key n := by
  rw [extend, extend, stem_concat]
  rfl

theorem dropLast_extend (t : Trail) (key : String) (n : UInt64) :
    (t.extend key n).dropLast = t.stem key := by
  rw [extend, List.dropLast_concat]

theorem extend_inj {t u : Trail} {key key' : String} {m n : UInt64}
    (h : t.extend key m = u.extend key' n) : t.stem key = u.stem key' ∧ key = key' ∧ m = n := by
  have h := List.append_inj' h rfl
  simpa using h

theorem maxCount_stem_le (t : Trail) (key : String) :
    (t.stem key).maxCount key ≤ t.maxCount key := by
  rcases stem_cases t key with h | ⟨m, h⟩
  · exact Nat.le_of_eq (congrArg (maxCount key) h.symm)
  · conv_rhs => rw [h, maxCount_concat, if_pos rfl]
    exact Nat.le_max_left _ _

/-- A count above all earlier ones is the largest after its push. -/
theorem maxCount_extend {t : Trail} {key : String} {n : UInt64} (h : t.maxCount key < n.toNat) :
    (t.extend key n).maxCount key = n.toNat := by
  have hstem := maxCount_stem_le t key
  rw [extend, maxCount_concat, if_pos rfl]
  omega

/-! ### Ranks -/

theorem rank_concat (t : Trail) (key : String) (n : UInt64) :
    rank (t ++ [(key, n)]) = (t.length + 1) * 0x10000000000000000 + n.toNat := by
  simp [rank]

theorem rank_lt_concat (t : Trail) (key : String) (n : UInt64) :
    t.rank < rank (t ++ [(key, n)]) := by
  have hlast : (t.getLast?.map (·.2.toNat)).getD 0 < 0x10000000000000000 := by
    cases t.getLast? with
    | none => decide
    | some e => exact e.2.toNat_lt
  rw [rank_concat, rank]
  omega

theorem rank_lt_extend {t : Trail} {key : String} {n : UInt64} (h : t.maxCount key < n.toNat) :
    t.rank < (t.extend key n).rank := by
  rcases stem_cases t key with ht | ⟨m, ht⟩
  · rw [extend, ← ht]
    exact rank_lt_concat t key n
  · have hm : m.toNat ≤ t.maxCount key := by
      rw [ht, maxCount_concat, if_pos rfl]
      exact Nat.le_max_right _ _
    rw [extend, rank_concat]
    conv_lhs => rw [ht, rank_concat]
    omega

/-- Two bases with one stem are the same where their ranks are. -/
theorem eq_of_rank {t u : Trail} {key : String} (hstem : t.stem key = u.stem key)
    (h : t.rank = u.rank) : t = u := by
  rcases stem_cases t key with ht | ⟨m, ht⟩ <;> rcases stem_cases u key with hu | ⟨n, hu⟩
  · rw [ht, hu, hstem]
  · have hlt := rank_lt_concat (t.stem key) key n
    rw [hstem, ← hu, ← hstem, ← ht, h] at hlt
    exact absurd hlt (Nat.lt_irrefl _)
  · have hlt := rank_lt_concat (u.stem key) key m
    rw [← hstem, ← ht, hstem, ← hu, h] at hlt
    exact absurd hlt (Nat.lt_irrefl _)
  · rw [ht, hu, rank_concat, rank_concat, hstem] at h
    have hmn : m = n := UInt64.toNat_inj.1 (by omega)
    rw [ht, hu, hstem, hmn]

/-- The one of two bases with one stem that has the larger rank has the key on top. -/
theorem eq_concat_of_rank_lt {t u : Trail} {key : String} (hstem : t.stem key = u.stem key)
    (h : u.rank < t.rank) : ∃ m, t = t.stem key ++ [(key, m)] := by
  rcases stem_cases t key with ht | ht
  · exfalso
    rcases stem_cases u key with hu | ⟨n, hu⟩
    · rw [ht, hu, hstem] at h
      exact Nat.lt_irrefl _ h
    · have hlt := rank_lt_concat (u.stem key) key n
      rw [← hu, ← hstem, ← ht] at hlt
      omega
  · exact ht

end Trail

end Faultline
