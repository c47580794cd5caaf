import Faultline.Mutation.Space

/-!
# Whole walks

`Walker.Walks` is a walk to its end with its results: a step without successor is the last one,
and every other step can be continued.  A space is walked through position by position, and a
space without mutations yields the payload once.  From whatever place, the walk ends
(`Space.exists_walks`).
-/

namespace Faultline

namespace Walker

variable {P C O : Type} {w : Walker P C O} {p : P} {a : Accumulator P C} {rs : List O}

/-- A walk over a payload from an accumulator to its end, with its results. -/
inductive Walks (w : Walker P C O) (p : P) : Accumulator P C → List O → Prop
  | last {a : Accumulator P C} {r : O} {next : Except Violation (Accumulator P C)}
      (h : w.step p a = ⟨r, false, next⟩) : Walks w p a [r]
  | more {a a' : Accumulator P C} {r : O} {rs : List O} (h : w.step p a = ⟨r, true, .ok a'⟩)
      (rest : Walks w p a' rs) : Walks w p a (r :: rs)

/-- A walk that ends is run to its end, and no further, by any fuel that lasts. -/
theorem Walks.run_eq (h : w.Walks p a rs) {fuel : Nat} (hfuel : rs.length ≤ fuel) :
    w.run p fuel a = rs := by
  induction h generalizing fuel with
  | last hstep =>
      obtain ⟨fuel, rfl⟩ : ∃ n, fuel = n + 1 := ⟨fuel - 1, by simp at hfuel; omega⟩
      simp [run, hstep]
  | more hstep _ ih =>
      obtain ⟨fuel, rfl⟩ : ∃ n, fuel = n + 1 := ⟨fuel - 1, by simp at hfuel; omega⟩
      simp [run, hstep, ih (Nat.le_of_succ_le_succ hfuel)]

theorem Walks.unique {rs' : List O} (h : w.Walks p a rs) (h' : w.Walks p a rs') : rs = rs' := by
  have hrun := h.run_eq (Nat.le_max_left rs.length rs'.length)
  exact hrun.symm.trans (h'.run_eq (Nat.le_max_right rs.length rs'.length))

/-- What is true of an accumulator stays true as the walk goes on. -/
def Keeps (w : Walker P C O) (I : Accumulator P C → Prop) : Prop :=
  ∀ {p : P} {a a' : Accumulator P C} {r : O} {hasNext : Bool},
    w.step p a = ⟨r, hasNext, .ok a'⟩ → I a → I a'

end Walker

namespace Space

variable {P O : Type} {m : Space P O} {p : P}

/-- The results of a whole walk. -/
def results (m : Space P O) (p : P) : List O :=
  if m.count p = 0 then [m.unmutated p] else (List.range (m.count p)).map (m.mutate p)

theorem results_of_count_eq_zero (h : m.count p = 0) : m.results p = [m.unmutated p] :=
  if_pos h

/-- The step at a position of the space. -/
theorem stage_of_lt {r : P} {i : UInt64} (h : i.toNat < m.count p) :
    m.stage p ⟨r, i⟩ =
      ⟨m.mutate p i.toNat, decide (i.toNat + 1 < m.count p), advance ⟨r, i⟩⟩ := by
  have hzero : m.count p ≠ 0 := by omega
  have hmin : min i.toNat (m.count p - 1) = i.toNat := by omega
  simp only [stage, if_neg hzero, hmin]

/-- The walk from a position goes through those behind it. -/
theorem walks_from (fits : m.count p ≤ 0x10000000000000000) (r : P) (n : Nat) (i : UInt64)
    (h : i.toNat + n + 1 = m.count p) :
    m.walker.Walks p ⟨r, i⟩ ((List.range' i.toNat (n + 1)).map (m.mutate p)) := by
  have hstage := stage_of_lt (r := r) (show i.toNat < m.count p by omega)
  induction n generalizing i with
  | zero =>
      rw [decide_eq_false (by omega)] at hstage
      exact .last hstage
  | succ n ih =>
      have hmore : (m.stage p ⟨r, i⟩).hasNext = true := by
        rw [hstage]
        exact decide_eq_true (by omega)
      rw [decide_eq_true (by omega), advance_ok_of_hasNext m p ⟨r, i⟩ hmore fits] at hstage
      have hi : (i + 1).toNat = i.toNat + 1 := by
        have hone : (1 : UInt64).toNat = 1 := rfl
        rw [UInt64.toNat_add, hone]
        omega
      have hrest := ih (i + 1) (by omega) (stage_of_lt (by omega))
      rw [hi] at hrest
      rw [List.range'_succ, List.map_cons]
      exact .more hstage hrest

/-- A space is walked through from its start, whatever the reference that the walk carries. -/
theorem walks (fits : m.count p ≤ 0x10000000000000000) (r : P) :
    m.walker.Walks p ⟨r, 0⟩ (m.results p) := by
  by_cases hzero : m.count p = 0
  · have hstage : m.stage p ⟨r, 0⟩ = ⟨m.unmutated p, false, advance ⟨r, 0⟩⟩ := by
      simp only [stage, if_pos hzero]
    rw [results_of_count_eq_zero hzero]
    exact .last hstage
  · have hwalk := walks_from fits r (m.count p - 1) 0 (by simp; omega)
    have hcount : m.count p - 1 + 1 = m.count p := by omega
    rw [hcount] at hwalk
    rwa [results, if_neg hzero, List.range_eq_range']

/-- A space is walked to its end from any place, also from one beyond it. -/
theorem exists_walks (fits : m.count p ≤ 0x10000000000000000) (a : Accumulator P UInt64) :
    ∃ rs, m.walker.Walks p a rs := by
  by_cases hlt : a.place.toNat < m.count p
  · exact ⟨_, walks_from fits a.reference (m.count p - a.place.toNat - 1) a.place (by omega)⟩
  · have hlast : (m.stage p a).hasNext = false := by
      by_cases hzero : m.count p = 0
      · simp only [stage, if_pos hzero]
      · simp only [stage, if_neg hzero]
        exact decide_eq_false (by omega)
    have hstage : m.walker.step p a = ⟨(m.stage p a).result, false, (m.stage p a).next⟩ := by
      rw [← hlast]
      rfl
    exact ⟨_, .last hstage⟩

/-- A walk goes on with the reference that it started from. -/
theorem keeps_reference (m : Space P O) (q : P) : m.walker.Keeps fun a => a.reference = q := by
  intro p a a' r hasNext h hq
  have hadvance : advance a = .ok a' := by
    have hnext := congrArg Stage.next h
    simp only [walker, stage] at hnext
    split at hnext <;> exact hnext
  unfold advance at hadvance
  split at hadvance
  · cases hadvance
  · obtain rfl := Except.ok.inj hadvance
    exact hq

end Space

end Faultline
