import Faultline.Mutation.Fields

/-!
# Machines

Walks that keep what they do in a memory.  A step changes the memory piece by piece, and what came
of it is asked for afterwards.  A machine for a space remembers its last step; one for objects
remembers also whether the leaf at hand goes on, and gives each step of a leaf to a new machine.
-/

namespace Faultline

/-- An enumeration of mutations with a memory between the steps. -/
structure Machine (M P C O : Type) where
  fresh : M
  start : P → Accumulator P C
  transform : P → Accumulator P C → EStateM Violation M Unit
  /-- Whether mutations follow the last one. -/
  hasNext : M → Bool
  /-- The last mutation. -/
  result : M → Except Violation O
  /-- Where the walk goes on after the last mutation. -/
  next : M → Except Violation (Accumulator P C)

namespace Space

variable {P O : Type}

/-- What is kept of the last position. -/
structure Memory (P O : Type) where
  hasNext : Bool
  result : Option O
  accumulator : Option (Accumulator P UInt64)

/-- The mutation at the place, or the last one where the place is beyond it. -/
def transform (m : Space P O) (p : P) (a : Accumulator P UInt64) :
    EStateM Violation (Memory P O) Unit := do
  let n := m.count p
  if n = 0 then
    modify fun s => { s with result := some (m.unmutated p), hasNext := false }
  else
    let i := min a.place.toNat (n - 1)
    modify fun s => { s with result := some (m.mutate p i), hasNext := decide (i + 1 < n) }
  modify fun s => { s with accumulator := some a }

def machine (m : Space P O) : Machine (Memory P O) P UInt64 O where
  fresh := ⟨true, none, none⟩
  start p := ⟨p, 0⟩
  transform := m.transform
  hasNext s := s.hasNext
  result s :=
    match s.result with
    | some r => .ok r
    | none => .error .noResult
  next s :=
    match s.accumulator with
    | some a => advance a
    | none => .error .noContinuation

end Space

namespace Mutation.ObjectEncoding

variable {P : Type}

/-- What is kept of the last leaf. -/
structure Memory (P : Type) where
  hasNext : Bool
  /-- Whether the leaf at hand goes on. -/
  leafHasNext : Bool
  result : Option P
  accumulator : Option (Accumulator P (List Cursor))

/-- A leaf whose turn it is: the object that it is in, its space, and where its walk stands. -/
structure Turn where
  members : List (String × Json)
  field : String
  leaf : Leaf
  space : Space String String
  accumulator : Accumulator String UInt64

/-- The leaf that the last cursor names. -/
def turn? (e : ObjectEncoding P) (p : P) (begun : List Cursor) : Option Turn := do
  let members ← e.decode? p
  let cursor ← begun.getLast?
  let leaf ← (leaves members).find? fun l => l.field == cursor.field
  let space ← leafSpace? leaf.value
  let accumulator ← Cursor.codec.read? cursor.accumulator
  return ⟨members, cursor.field, leaf, space, accumulator⟩

/-- The cursors with the last one moved. -/
def moveLast (t : Turn) (a : Accumulator String UInt64) (begun : List Cursor) : List Cursor :=
  begun.dropLast ++ [⟨t.field, Cursor.codec.write a⟩]

/-- The object with its leaf mutated. -/
def withLeaf (e : ObjectEncoding P) (t : Turn) (mutated : String) : P :=
  e.encode (putAt (restore t.leaf.value mutated) t.leaf.path (.obj t.members))

/-- A violation ends the step. -/
def orThrow {M α : Type} : Except Violation α → EStateM Violation M α
  | .ok a => pure a
  | .error v => throw v

/-- A step of the leaf whose turn it is, taken by a new machine; with the cursors after it. -/
def takeTurn (e : ObjectEncoding P) (t : Turn) (begun : List Cursor) :
    EStateM Violation (Memory P) (P × List Cursor) := do
  let inner := t.space.machine
  match inner.transform (leafInput t.leaf.value) t.accumulator inner.fresh with
  | .error v _ => throw v
  | .ok _ s =>
    let mutated ← orThrow (inner.result s)
    modify fun m => { m with leafHasNext := inner.hasNext s }
    if inner.hasNext s then
      let a ← orThrow (inner.next s)
      return (e.withLeaf t mutated, moveLast t a begun)
    else return (e.withLeaf t mutated, begun)

/-- A step of the last leaf begun; without one the payload stays as it is. -/
def transform (e : ObjectEncoding P) (p : P) (a : Accumulator P (List Cursor)) :
    EStateM Violation (Memory P) Unit := do
  modify fun m => { m with leafHasNext := false }
  let (result, begun) ← match e.turn? p a.place with
    | some t => e.takeTurn t a.place
    | none => pure (p, a.place)
  modify fun m => { m with result := some result }
  modify fun m => { m with
    hasNext := m.leafHasNext || decide (begun.length < e.fieldCount a.reference) }
  modify fun m => { m with accumulator := some ⟨a.reference, begun⟩ }

def machine (e : ObjectEncoding P) : Machine (Memory P) P (List Cursor) P where
  fresh := ⟨true, false, none, none⟩
  start p := ⟨p, e.following p 0⟩
  transform := e.transform
  hasNext m := m.hasNext
  result m :=
    match m.result with
    | some r => .ok r
    | none => .error .noResult
  next m :=
    match m.accumulator with
    | some a =>
      if m.leafHasNext then .ok a
      else .ok ⟨a.reference, a.place ++ e.following a.reference a.place.length⟩
    | none => .error .noContinuation

end Mutation.ObjectEncoding

end Faultline
