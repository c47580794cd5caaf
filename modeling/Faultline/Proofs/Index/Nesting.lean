import Faultline.Proofs.Index.Text

/-!
# Nested pushes and pops

A pop puts back what its push has changed on the stack, be it a new entry or the count of the entry
on top, and takes the mark of the push from the journal.  So pushes and pops that are nested leave
an index as it was but for its counters (`nested_restores`), whatever has happened to it before:
the entries of an index that was read have no marks in the journal.
-/

namespace Faultline

namespace Index

/-! ### Sequences of moves -/

/-- Pushes and pops in which every pop undoes an earlier push, and every push is undone. -/
inductive Nested : List Move → Prop
  | nil : Nested []
  | pair (key : Key) {inner rest : List Move} (hinner : Nested inner) (hrest : Nested rest) :
    Nested (.push key :: (inner ++ .pop :: rest))

/-- Whether a move pushes a key. -/
def Move.pushes (key : String) : Move → Bool
  | .push k => k.rendered == key
  | .pop => false

/-- How often a key is pushed. -/
def pushes (key : String) (moves : List Move) : Nat :=
  moves.countP (Move.pushes key)

theorem pushes_pair (key : Key) (inner rest : List Move) (k : String) :
    pushes k (.push key :: (inner ++ .pop :: rest)) =
      (if k = key.rendered then 1 else 0) + pushes k inner + pushes k rest := by
  simp only [pushes, List.countP_cons, List.countP_append, Move.pushes, beq_iff_eq,
    Bool.false_eq_true, if_false, eq_comm (a := k)]
  omega

/-! ### The count that comes next -/

/-- The count that a push of the key takes now. -/
def nextCount? (i : Index) (key : Key) : Option Nat :=
  match i.push key with
  | .ok j => j.top?.map (·.2.toNat)
  | .error _ => none

theorem top?_pushCounted (i : Index) (key : Key) (n : UInt64) :
    (i.pushCounted key n).top?.map (·.2.toNat) = some n.toNat := by
  unfold pushCounted top?
  split
  · split <;> rfl
  · rfl

section Counts

variable {i : Index} {key : Key}

/-- Where a counter has room, its key can be pushed. -/
theorem exists_push (hroom : (i.counter key.rendered).toNat + 1 < UInt64.size) :
    ∃ n : UInt64, n.toNat = (i.counter key.rendered).toNat + 1 ∧
      i.push key = .ok (i.pushCounted key n) := by
  have hne : i.counter key.rendered ≠ 0xFFFFFFFFFFFFFFFF := fun hfull => by
    rw [hfull] at hroom
    exact absurd hroom (by decide)
  exact ⟨_, toNat_add_one hne, by rw [push, if_neg hne]⟩

theorem nextCount?_eq_some_iff {n : Nat} : i.nextCount? key = some n ↔
    n = (i.counter key.rendered).toNat + 1 ∧ n < UInt64.size := by
  unfold nextCount?
  by_cases hroom : (i.counter key.rendered).toNat + 1 < UInt64.size
  · obtain ⟨m, hm, hpush⟩ := exists_push hroom
    rw [hpush]
    simp only [top?_pushCounted, hm, Option.some.injEq]
    omega
  · have hlt := (i.counter key.rendered).toNat_lt_size
    have hfull : i.counter key.rendered = 0xFFFFFFFFFFFFFFFF :=
      UInt64.toNat_inj.1 (show _ = UInt64.size - 1 by omega)
    rw [push, if_pos hfull]
    simp only [reduceCtorEq, false_iff]
    omega

theorem toNat_counter_pushCounted {n : UInt64}
    (hn : n.toNat = (i.counter key.rendered).toNat + 1) (k : String) :
    ((i.pushCounted key n).counter k).toNat =
      (i.counter k).toNat + if k = key.rendered then 1 else 0 := by
  rw [counter_pushCounted]
  split
  · next hk => rw [hn, hk]
  · rfl

end Counts

/-! ### Indexes with the same stack -/

/-- Indexes that differ at most in their counters. -/
structure SameStack (i j : Index) : Prop where
  frames : j.frames = i.frames
  journal : j.journal = i.journal

namespace SameStack

variable {i j : Index}

theorem trail_eq (h : SameStack i j) : j.trail = i.trail := by
  rw [trail, h.frames]
  rfl

theorem pop_eq (h : SameStack i j) :
    j.pop = i.pop.map fun k => { k with counters := j.counters } := by
  obtain ⟨frames, counters, journal⟩ := i
  obtain ⟨frames', counters', journal'⟩ := j
  obtain rfl : frames' = frames := h.frames
  obtain rfl : journal' = journal := h.journal
  rcases frames' with _ | ⟨f, below⟩
  · rfl
  · rcases journal' with _ | ⟨_ | previous, marks⟩ <;> rfl

/-- Any number of pops does the same to them. -/
theorem run_pops (h : SameStack i j) (n : Nat) :
    (j.run (.replicate n .pop)).map trail = (i.run (.replicate n .pop)).map trail := by
  induction n generalizing i j with
  | zero => exact congrArg Except.ok h.trail_eq
  | succ n ih =>
      rw [List.replicate_succ, run_cons, run_cons, move, move, h.pop_eq]
      cases i.pop with
      | error v => rfl
      | ok k => exact ih ⟨rfl, rfl⟩

end SameStack

/-! ### Nested moves -/

/-- A push and its pop, with moves between them that leave the stack alone. -/
theorem run_pair {i j : Index} {key : Key} {n : UInt64} {inner : List Move}
    (hpush : i.push key = .ok (i.pushCounted key n))
    (hinner : (i.pushCounted key n).run inner = .ok j) (hsame : SameStack (i.pushCounted key n) j)
    (rest : List Move) :
    i.run (.push key :: (inner ++ .pop :: rest)) = run { i with counters := j.counters } rest := by
  have hpop : j.pop = .ok { i with counters := j.counters } := by
    rw [hsame.pop_eq, pop_pushCounted]
    rfl
  calc i.run (.push key :: (inner ++ .pop :: rest))
    _ = (i.pushCounted key n).run (inner ++ .pop :: rest) := by
      rw [run_cons, move, hpush]
      rfl
    _ = j.run (.pop :: rest) := by
      rw [run_append, hinner]
      rfl
    _ = run { i with counters := j.counters } rest := by
      rw [run_cons, move, hpop]
      rfl

/-- Nested moves can be made where the counters have room for them, and change nothing but the
counters. -/
theorem exists_run_of_nested {moves : List Move} (h : Nested moves) {i : Index}
    (hroom : ∀ k, (i.counter k).toNat + pushes k moves < UInt64.size) :
    ∃ j, i.run moves = .ok j ∧ SameStack i j ∧
      ∀ k, (j.counter k).toNat = (i.counter k).toNat + pushes k moves := by
  induction h generalizing i with
  | nil => exact ⟨i, rfl, ⟨rfl, rfl⟩, fun _ => rfl⟩
  | @pair key inner rest _ _ ihinner ihrest =>
      simp only [pushes_pair] at hroom ⊢
      have hkey := hroom key.rendered
      rw [if_pos rfl] at hkey
      have hnext : (i.counter key.rendered).toNat + 1 < UInt64.size := by omega
      obtain ⟨n, hn, hpush⟩ := exists_push hnext
      have hpushed := toNat_counter_pushCounted hn
      obtain ⟨j, hinner, hsame, hj⟩ := ihinner (i := i.pushCounted key n) fun k => by
        have := hroom k
        rw [hpushed]
        omega
      have hcounter : ∀ k, (counter { i with counters := j.counters } k).toNat =
          (i.counter k).toNat + (if k = key.rendered then 1 else 0) + pushes k inner := fun k => by
        rw [← hpushed, ← hj]
        rfl
      obtain ⟨j', hrest, hsame', hj'⟩ :=
        ihrest (i := { i with counters := j.counters }) fun k => by
          have := hroom k
          rw [hcounter]
          omega
      refine ⟨j', (run_pair hpush hinner hsame rest).trans hrest,
        ⟨hsame'.frames, hsame'.journal⟩, fun k => ?_⟩
      rw [hj', hcounter]
      omega

/-- Nested pushes and pops on any index: its entries are those of before, more pops do what they
would have done before, and all that has changed is that the count which a push of a key takes next
has grown by the number of its pushes. -/
theorem nested_restores (i : Index) {moves : List Move} (hnested : Nested moves)
    (hroom : ∀ k, (i.counter k).toNat + pushes k moves < UInt64.size) :
    ∃ j, i.run moves = .ok j ∧ j.trail = i.trail ∧
      (∀ n, (j.run (.replicate n .pop)).map trail = (i.run (.replicate n .pop)).map trail) ∧
      SameStack i j ∧
      ∀ key n, i.nextCount? key = some n → n + pushes key.rendered moves < UInt64.size →
        j.nextCount? key = some (n + pushes key.rendered moves) := by
  obtain ⟨j, hrun, hsame, hcounter⟩ := exists_run_of_nested hnested hroom
  refine ⟨j, hrun, hsame.trail_eq, hsame.run_pops, hsame, fun key n hn hfits => ?_⟩
  obtain ⟨rfl, -⟩ := nextCount?_eq_some_iff.1 hn
  refine nextCount?_eq_some_iff.2 ⟨?_, hfits⟩
  rw [hcounter]
  omega

/-- Keys that are pushed onto entries of their own and onto others, on an index that was read. -/
theorem nested_restores_parsed :
    let b := Key.ofRendered "b"
    let c := Key.ofRendered "c"
    let i := ofTrail [("a", 1), ("b", 3)]
    let moves : List Move := [.push b, .push c, .push c, .pop, .push b, .pop, .pop, .pop]
    parse? "[[\"a\",1],[\"b\",3]]" = some i ∧ Nested moves ∧
      (∀ k, (i.counter k).toNat + pushes k moves < UInt64.size) ∧
      ∃ j, i.run moves = .ok j ∧ j.text = "[[\"a\", 1], [\"b\", 3]]" ∧
        i.nextCount? b = some 4 ∧ j.nextCount? b = some 6 := by
  intro b c i moves
  have hread : parse? "[[\"a\",1],[\"b\",3]]" = some i := by cbv
  have hnested : Nested moves :=
    .pair b (.pair c (.pair c .nil (.pair b .nil .nil)) .nil) .nil
  have hroom : ∀ k, (i.counter k).toNat + pushes k moves < UInt64.size := fun k => by
    have hcounter : (i.counter k).toNat ≤ 3 := by
      rw [counter_ofTrail]
      simp only [Trail.maxCount, List.foldl_cons, List.foldl_nil]
      split <;> split <;> decide
    have hpushes : pushes k moves ≤ 8 := List.countP_le_length
    have hsize : UInt64.size = 2 ^ 64 := rfl
    omega
  obtain ⟨j, hrun, htrail, -, -, hnext⟩ := nested_restores i hnested hroom
  have hb : i.nextCount? b = some 4 := by cbv
  refine ⟨hread, hnested, hroom, j, hrun, ?_, hb, hnext b 4 hb (by decide)⟩
  rw [text, htrail, trail_ofTrail]
  cbv

end Index

end Faultline
