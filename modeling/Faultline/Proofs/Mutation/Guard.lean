import Faultline.Proofs.Mutation.Objects
import Faultline.Proofs.Mutation.Restart

/-!
# Guarded steps

A step counts mutations, adds to a position and looks something up there.  A guarded machine
breaks the step off where a number does not fit a word, and where there is nothing at the position.
As long as the mutations of a payload can be counted in a word, this never happens, and a guarded
machine takes the same steps (`Space.guardedTransform_eq`, `ObjectEncoding.guardedTransform_eq`).
-/

namespace Faultline

/-- A number that a word can hold. -/
def withinWord {M : Type} (n : Nat) : EStateM Violation M Nat :=
  if n < 0x10000000000000000 then pure n else throw .overflow

theorem withinWord_eq {M : Type} {n : Nat} (h : n < 0x10000000000000000) :
    (withinWord n : EStateM Violation M Nat) = pure n :=
  if_pos h

namespace Space

variable {P O : Type} {m : Space P O} {look : P → Nat → Option O} {beyond : Violation}

/-- The mutations of a space that looks nothing up. -/
def computed (m : Space P O) (p : P) (i : Nat) : Option O :=
  some (m.mutate p i)

/-- A guarded step, with the violation of a look-up that finds nothing. -/
def guardedTransform (m : Space P O) (look : P → Nat → Option O) (beyond : Violation) (p : P)
    (a : Accumulator P UInt64) : EStateM Violation (Memory P O) Unit := do
  let n ← withinWord (m.count p)
  if n = 0 then
    modify fun s => { s with result := some (m.unmutated p), hasNext := false }
  else
    let i := min a.place.toNat (n - 1)
    match look p i with
    | none => throw beyond
    | some r =>
      modify fun s => { s with result := some r }
      let following ← withinWord (i + 1)
      modify fun s => { s with hasNext := decide (following < n) }
  modify fun s => { s with accumulator := some a }

def guarded (m : Space P O) (look : P → Nat → Option O) (beyond : Violation) :
    Machine (Memory P O) P UInt64 O :=
  { m.machine with transform := m.guardedTransform look beyond }

/-- Every mutation of a payload is found. -/
def Finds (m : Space P O) (look : P → Nat → Option O) (p : P) : Prop :=
  ∀ i < m.count p, look p i = some (m.mutate p i)

theorem finds_computed (p : P) : m.Finds m.computed p := fun _ _ => rfl

theorem guardedTransform_eq {p : P} (hcount : m.count p < 0x10000000000000000)
    (hfinds : m.Finds look p) (beyond : Violation) (a : Accumulator P UInt64) :
    m.guardedTransform look beyond p a = m.transform p a := by
  unfold guardedTransform transform
  rw [withinWord_eq hcount, pure_bind]
  by_cases hzero : m.count p = 0
  · simp only [if_pos hzero]
  · have hi : min a.place.toNat (m.count p - 1) < m.count p := m.stage_position_lt p a hzero
    have hfollowing : min a.place.toNat (m.count p - 1) + 1 < 0x10000000000000000 :=
      Nat.lt_of_le_of_lt hi hcount
    simp only [if_neg hzero, hfinds _ hi, withinWord_eq hfollowing]
    rfl

theorem stage_guarded {p : P} (hcount : m.count p < 0x10000000000000000)
    (hfinds : m.Finds look p) (beyond : Violation) (s : Memory P O) (a : Accumulator P UInt64) :
    (m.guarded look beyond).stage s p a = .ok (m.stage p a) := by
  rw [← m.stage_machine s p a]
  simp only [Machine.stage, guarded, machine, guardedTransform_eq hcount hfinds]

end Space

/-! ### Objects -/

namespace Mutation.ObjectEncoding

variable {P : Type} {e : ObjectEncoding P} {p : P}

/-- A turn of a leaf, taken by a guarded machine. -/
def guardedTurn (e : ObjectEncoding P) (beyond : Violation) (t : Turn) (begun : List Cursor) :
    EStateM Violation (Memory P) (P × List Cursor) := do
  let inner := t.space.guarded t.space.computed beyond
  match inner.transform (leafInput t.leaf.value) t.accumulator inner.fresh with
  | .error v _ => throw v
  | .ok _ s =>
    let mutated ← orThrow (inner.result s)
    modify fun m => { m with leafHasNext := inner.hasNext s }
    if inner.hasNext s then
      let a ← orThrow (inner.next s)
      return (e.withLeaf t mutated, moveLast t a begun)
    else return (e.withLeaf t mutated, begun)

/-- A step in which a leaf has a guarded turn. -/
def guardedTransform (e : ObjectEncoding P) (beyond : Violation) (p : P)
    (a : Accumulator P (List Cursor)) : EStateM Violation (Memory P) Unit := do
  modify fun m => { m with leafHasNext := false }
  let (result, begun) ← match e.turn? p a.place with
    | some t => e.guardedTurn beyond t a.place
    | none => pure (p, a.place)
  modify fun m => { m with result := some result }
  modify fun m => { m with
    hasNext := m.leafHasNext || decide (begun.length < e.fieldCount a.reference) }
  modify fun m => { m with accumulator := some ⟨a.reference, begun⟩ }

def guarded (e : ObjectEncoding P) (beyond : Violation) :
    Machine (Memory P) P (List Cursor) P :=
  { e.machine with transform := e.guardedTransform beyond }

/-- The leaves of a payload have mutations that a word can count. -/
def Countable (e : ObjectEncoding P) (p : P) : Prop :=
  ∀ members, e.decode? p = some members → ∀ l ∈ leaves members,
    ∃ m, leafSpace? l.value = some m ∧ m.count (leafInput l.value) < 0x10000000000000000

theorem Countable.fits (h : e.Countable p) (members : List (String × Json))
    (hdecode : e.decode? p = some members) : ∀ l ∈ leaves members, l.Fits := by
  intro l hl
  obtain ⟨m, hm, hcount⟩ := h members hdecode l hl
  exact ⟨m, hm, Nat.le_of_lt hcount⟩

theorem BoundedBy.countable {n : Nat} (h : e.BoundedBy n p) (hn : n < 0x10000000000000000) :
    e.Countable p := by
  intro members hdecode l hl
  obtain ⟨m, hm, hcount⟩ := h members hdecode l hl
  exact ⟨m, hm, Nat.lt_of_le_of_lt hcount hn⟩

theorem countable_objectText {s : String} (hlength : s.length < 0x10000000000000000) :
    objectText.Countable s :=
  (boundedBy_objectText (Nat.le_pred_of_lt hlength) (by decide)).countable (by decide)

theorem countable_objectBytes {bs : List UInt8} (hlength : bs.length < 0x10000000000000000) :
    objectBytes.Countable bs :=
  (boundedBy_objectBytes (Nat.le_pred_of_lt hlength) (by decide)).countable (by decide)

theorem Countable.count_lt (h : e.Countable p) {begun : List Cursor} {t : Turn}
    (ht : e.turn? p begun = some t) :
    t.space.count (leafInput t.leaf.value) < 0x10000000000000000 := by
  simp only [turn?, Option.bind_eq_bind, Option.bind_eq_some_iff, Option.pure_def] at ht
  obtain ⟨members, hdecode, c, -, l, hl, m, hm, a, -, ht⟩ := ht
  obtain rfl := Option.some.inj ht
  obtain ⟨m', hm', hcount⟩ := h members hdecode l (List.mem_of_find?_eq_some hl)
  obtain rfl := Option.some.inj (hm.symm.trans hm')
  exact hcount

/-- A leaf that goes on can be continued, so that every step succeeds. -/
theorem Countable.stage_machine (h : e.Countable p) (s : Memory P)
    (a : Accumulator P (List Cursor)) : e.machine.stage s p a = .ok (e.step p a) := by
  rcases e.stage_machine_eq_step s p a with hstage | hstage
  · exact hstage
  · rw [e.stage_machine] at hstage
    cases ht : e.turn? p a.place with
    | none => simp [ht] at hstage
    | some t =>
        cases hmore : (t.space.stage (leafInput t.leaf.value) t.accumulator).hasNext with
        | false => simp [ht, hmore] at hstage
        | true =>
            have hnext := t.space.advance_ok_of_hasNext (leafInput t.leaf.value) t.accumulator
              hmore (Nat.le_of_lt (h.count_lt ht))
            rw [← t.space.next_stage (leafInput t.leaf.value)] at hnext
            simp [ht, hmore, hnext] at hstage

theorem guardedTurn_eq {t : Turn}
    (hcount : t.space.count (leafInput t.leaf.value) < 0x10000000000000000) (beyond : Violation)
    (begun : List Cursor) : e.guardedTurn beyond t begun = e.takeTurn t begun := by
  have hstep := Space.guardedTransform_eq hcount (Space.finds_computed _) beyond t.accumulator
  unfold guardedTurn takeTurn
  simp only [Space.guarded, hstep]
  rfl

theorem guardedTransform_eq (h : e.Countable p) (beyond : Violation)
    (a : Accumulator P (List Cursor)) : e.guardedTransform beyond p a = e.transform p a := by
  unfold guardedTransform transform
  cases ht : e.turn? p a.place with
  | none => rfl
  | some t => simp only [guardedTurn_eq (h.count_lt ht)]

theorem stage_guarded (h : e.Countable p) (beyond : Violation) (s : Memory P)
    (a : Accumulator P (List Cursor)) :
    (e.guarded beyond).stage s p a = .ok (e.step p a) := by
  rw [← h.stage_machine s a]
  simp only [Machine.stage, guarded, machine, guardedTransform_eq h]

end Mutation.ObjectEncoding

/-! ### Look-ups -/

namespace Mutation

/-- The list with the element at a position changed, if there is one. -/
def changeAt? {α : Type} (f : α → α) (i : Nat) (l : List α) : Option (List α) :=
  l[i]?.map fun a => l.set i (f a)

theorem changeAt?_eq {α : Type} (f : α → α) {i : Nat} {l : List α} (h : i < l.length) :
    changeAt? f i l = some (mapAt f i l) := by
  rw [changeAt?, List.getElem?_eq_getElem h, Option.map_some]
  congr 1
  refine List.ext_getElem? fun j => ?_
  rw [getElem?_mapAt, List.getElem?_set]
  by_cases hj : j = i
  · subst hj
    simp [h]
  · rw [if_neg (Ne.symm hj), if_neg hj]

theorem finds_changeAt?_nextByte (bs : List UInt8) :
    shiftedByte.Finds (fun bs i => changeAt? nextByte i bs) bs :=
  fun _ hi => changeAt?_eq nextByte hi

theorem finds_changeAt?_flipBit (bs : List UInt8) :
    flippedBit.Finds (fun bs i => changeAt? (flipBit i) (i / 8) bs) bs :=
  fun i hi => changeAt?_eq (flipBit i) (Nat.div_lt_of_lt_mul (Nat.mul_comm 8 _ ▸ hi))

/-- The two replacements of a text. -/
def unexpectedTexts : List (Option String) := [none, some ""]

theorem finds_unexpectedTexts (s : String) :
    unexpectedText.Finds (fun _ i => unexpectedTexts[i]?) s := by
  intro i hi
  obtain rfl | rfl : i = 0 ∨ i = 1 := by
    simp only [unexpectedText] at hi
    omega
  · rfl
  · rfl

theorem finds_unexpectedValues (bs : List UInt8) :
    unexpectedBytes.Finds (fun _ i => unexpectedValues[i]?.map (Option.map bytesOf)) bs := by
  intro i hi
  have hvalue : unexpectedValues[i]? = some unexpectedValues[i] := List.getElem?_eq_getElem hi
  simp [unexpectedBytes, hvalue]

theorem finds_exceptions (exceptions : List StoreException) (j : Json) :
    (catalog exceptions).Finds (fun _ i => exceptions[i]?.map StoreException.toJson) j := by
  intro i hi
  have hexception : exceptions[i]? = some exceptions[i] := List.getElem?_eq_getElem hi
  simp [catalog, hexception]

end Mutation

namespace Device

open Mutation

variable {P O : Type}

def ofLookups (kind : TransformerKind) (m : Space P O) (look : P → Nat → Option O)
    (beyond : Violation) (p : Codec P) (write : O → Json) : Device :=
  ofMachine kind (m.guarded look beyond) p .word write

/-- The guarded device of a kind, with the violation of a look-up that finds nothing. -/
def guarded (beyond : Violation) (exceptions : List StoreException) : TransformerKind → Device
  | .text => ofLookups .text shiftedChar shiftedChar.computed beyond .text .str
  | .textBytes =>
    ofLookups .textBytes shiftedByte (fun bs i => changeAt? nextByte i bs) beyond .bytes
      Codec.writeBytes
  | .bitBytes =>
    ofLookups .bitBytes flippedBit (fun bs i => changeAt? (flipBit i) (i / 8) bs) beyond .bytes
      Codec.writeBytes
  | .booleanText => ofLookups .booleanText negatedBool negatedBool.computed beyond .text .str
  | .booleanBytes =>
    ofLookups .booleanBytes negatedBoolBytes negatedBoolBytes.computed beyond .bytes
      Codec.writeBytes
  | .integerText => ofLookups .integerText negatedInt negatedInt.computed beyond .text .str
  | .unexpectedText =>
    ofLookups .unexpectedText unexpectedText (fun _ i => unexpectedTexts[i]?) beyond .text
      (.ofOption .str)
  | .unexpectedBytes =>
    ofLookups .unexpectedBytes unexpectedBytes
      (fun _ i => unexpectedValues[i]?.map (Option.map bytesOf)) beyond .bytes
      (.ofOption Codec.writeBytes)
  | .redisTimeout =>
    ofLookups .redisTimeout (catalog [.redisTimeout]) (catalog [.redisTimeout]).computed beyond
      .json id
  | .storeException =>
    ofLookups .storeException (catalog exceptions)
      (fun _ i => exceptions[i]?.map StoreException.toJson) beyond .json id
  | .objectText =>
    ofMachine .objectText (objectText.guarded beyond) .text Cursor.listCodec Codec.text.write
  | .objectBytes =>
    ofMachine .objectBytes (objectBytes.guarded beyond) .bytes Cursor.listCodec Codec.bytes.write

end Device

end Faultline
