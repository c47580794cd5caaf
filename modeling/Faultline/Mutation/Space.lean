import Faultline.Violation

/-!
# Mutation spaces

A mutation space gives, for a reference payload, a number of mutations and each of them by its
position.  A walker takes a space, or any other way to enumerate mutations, one step at a time: a
step needs only the payload and an accumulator, so that it can be taken in another execution, or
by another process, than the step before.  `Walker.run` is the whole walk.
-/

namespace Faultline

/-- Mutations of payloads by position. -/
structure Space (P O : Type) where
  count : P → Nat
  /-- The mutation at a position below the count. -/
  mutate : P → Nat → O
  /-- The result where there is no mutation. -/
  unmutated : P → O

/-- Where a walk stands: the payload it started from, and the place in it. -/
structure Accumulator (P C : Type) where
  reference : P
  place : C
  deriving DecidableEq, Inhabited

/-- One step of a walk: its result, whether more follow, and where the walk goes on. -/
structure Stage (P C O : Type) where
  result : O
  hasNext : Bool
  next : Except Violation (Accumulator P C)

/-- An enumeration of mutations, step by step. -/
structure Walker (P C O : Type) where
  start : P → Accumulator P C
  step : P → Accumulator P C → Stage P C O

namespace Walker

variable {P C O : Type}

/-- The results of a walk over a payload from an accumulator, at most `fuel` of them. -/
def run (w : Walker P C O) (p : P) : Nat → Accumulator P C → List O
  | 0, _ => []
  | fuel + 1, a =>
    let s := w.step p a
    s.result ::
      match s.hasNext, s.next with
      | true, .ok a' => run w p fuel a'
      | _, _ => []

end Walker

namespace Space

variable {P O : Type}

/-- The place behind a place in a space. -/
def advance (a : Accumulator P UInt64) : Except Violation (Accumulator P UInt64) :=
  if a.place = 0xFFFFFFFFFFFFFFFF then .error .overflow
  else .ok ⟨a.reference, a.place + 1⟩

/-- The mutation at the place, or the last one where the place is beyond it. -/
def stage (m : Space P O) (p : P) (a : Accumulator P UInt64) : Stage P UInt64 O :=
  let n := m.count p
  if n = 0 then ⟨m.unmutated p, false, advance a⟩
  else
    let i := min a.place.toNat (n - 1)
    ⟨m.mutate p i, decide (i + 1 < n), advance a⟩

/-- The walk through a space from its first position. -/
def walker (m : Space P O) : Walker P UInt64 O :=
  ⟨fun p => ⟨p, 0⟩, m.stage⟩

/-- The position that a step takes is in the space. -/
theorem stage_position_lt (m : Space P O) (p : P) (a : Accumulator P UInt64)
    (h : m.count p ≠ 0) : min a.place.toNat (m.count p - 1) < m.count p := by
  omega

/-- A step that has a successor can be continued. -/
theorem advance_ok_of_hasNext (m : Space P O) (p : P) (a : Accumulator P UInt64)
    (h : (m.stage p a).hasNext = true) (fits : m.count p ≤ 0x10000000000000000) :
    advance a = .ok ⟨a.reference, a.place + 1⟩ := by
  by_cases h₀ : m.count p = 0
  · simp [stage, h₀] at h
  · have hlt : min a.place.toNat (m.count p - 1) + 1 < m.count p := by simpa [stage, h₀] using h
    unfold advance
    split
    · next heq =>
      have : a.place.toNat = 2 ^ 64 - 1 := by rw [heq]; rfl
      omega
    · rfl

end Space

end Faultline
