import Faultline.Key
import Faultline.Table
import Faultline.Trail
import Faultline.Violation

/-!
# Execution indexes

The stack of callsite keys behind a remote call, with a counter for each key that was ever pushed.
Pushing the key on top again raises its count in place; popping undoes the last push, but no
counter is ever taken back, so that siblings get different counts.  A journal says what each push
did.  Only the trail of an index shows.
-/

namespace Faultline

/-- What a push did. -/
inductive Mark where
  /-- It put a new entry on top. -/
  | appended
  /-- It raised the count of the entry on top, which was `previous`. -/
  | folded (previous : UInt64)
  deriving DecidableEq, Repr

/-- A stack of keys with their counts, the top first. -/
structure Index where
  frames : List (Key × UInt64)
  counters : Table UInt64
  journal : List Mark
  deriving Inhabited

namespace Index

def empty : Index := ⟨[], Table.empty, []⟩

def isEmpty (i : Index) : Bool :=
  i.frames.isEmpty

def size (i : Index) : Nat :=
  i.frames.length

/-- The entry on top. -/
def top? (i : Index) : Option (Key × UInt64) :=
  i.frames.head?

/-- The keys and counts that show, from the bottom up. -/
def trail (i : Index) : Trail :=
  i.frames.reverse.map fun f => (f.1.rendered, f.2)

def text (i : Index) : String :=
  i.trail.text

/-- Indexes are the same when their trails are. -/
def same (i j : Index) : Bool :=
  i.trail == j.trail

/-- The counter of a key. -/
def counter (i : Index) (key : String) : UInt64 :=
  (i.counters.get? key).getD 0

/-- The counters that a trail implies: for each key the largest of its counts. -/
def countersOf (t : Trail) : Table UInt64 :=
  t.foldl (fun m e => m.insert e.1 (max ((m.get? e.1).getD 0) e.2)) Table.empty

/-- An index that arrives as a trail: the destinations of its keys are not known. -/
def ofTrail (t : Trail) : Index :=
  ⟨(t.map fun e => (Key.ofRendered e.1, e.2)).reverse, countersOf t, []⟩

def parse? (s : String) : Option Index :=
  (Trail.parse? s).map ofTrail

/-- A push with the count that it takes. -/
def pushCounted (i : Index) (key : Key) (count : UInt64) : Index :=
  let counters := i.counters.insert key.rendered count
  match i.frames with
  | (top, previous) :: below =>
    if top.rendered = key.rendered then
      ⟨(top, count) :: below, counters, .folded previous :: i.journal⟩
    else ⟨(key, count) :: (top, previous) :: below, counters, .appended :: i.journal⟩
  | [] => ⟨[(key, count)], counters, .appended :: i.journal⟩

/-- A key goes on top with the next number of its counter. -/
def push (i : Index) (key : Key) : Except Violation Index :=
  let n := i.counter key.rendered
  if n = 0xFFFFFFFFFFFFFFFF then .error .overflow
  else .ok (i.pushCounted key (n + 1))

def pushCallsite (i : Index) (c : Callsite) (d : Digesting) : Except Violation Index :=
  i.push (Key.ofCallsite c d)

/-- The last push is undone. -/
def pop (i : Index) : Except Violation Index :=
  match i.frames, i.journal with
  | [], _ => .error .emptyPop
  | (top, _) :: below, .folded previous :: journal =>
    .ok ⟨(top, previous) :: below, i.counters, journal⟩
  | _ :: below, .appended :: journal => .ok ⟨below, i.counters, journal⟩
  | _ :: below, [] => .ok ⟨below, i.counters, []⟩

/-- The index of a call made now, and the index to go on with. -/
def name (i : Index) (key : Key) : Except Violation (Index × Index) := do
  let named ← i.push key
  return (named, ← named.pop)

/-- A view of the key on top. -/
def project (i : Index) (view : Key → Option String) : Option String :=
  i.top?.bind fun f => view f.1

@[simp] theorem trail_ofTrail (t : Trail) : (ofTrail t).trail = t := by
  simp [ofTrail, trail, Key.ofRendered, Function.comp_def]

end Index

end Faultline
