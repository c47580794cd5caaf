import Faultline.Json.Parser
import Faultline.Json.Printer
import Faultline.Mutation.Bytes
import Faultline.Mutation.Codec
import Faultline.Mutation.Kind

/-!
# Mutations of objects

One field of a JSON object after the other.  Nested objects are flattened: a leaf is a truth
value, a signed integer or a text, addressed by the names on the way to it joined by arrows, an
arrow inside a name being written `->-`.  Leaves come in key order at every level, and each is
walked to its end by the space that its value selects before the next one begins.  A mutated leaf
keeps its type.
-/

namespace Faultline.Mutation

/-- A leaf of an object: the names on the way to it, and its value. -/
structure Leaf where
  path : List String
  value : Json

/-- Arrows inside a name, told apart from those between names. -/
def escapeArrows : List Char → List Char
  | '-' :: '>' :: r => '-' :: '>' :: '-' :: escapeArrows r
  | c :: r => c :: escapeArrows r
  | [] => []

/-- The flattened name of a path. -/
def fieldName (path : List String) : String :=
  String.intercalate "->" (path.map fun k => String.ofList (escapeArrows k.toList))

def Leaf.field (l : Leaf) : String := fieldName l.path

/-- The space that a leaf's value selects, if it is mutated at all. -/
def leafSpace? : Json → Option (Space String String)
  | .bool _ => some negatedBool
  | .int n => if n.toInt64?.isSome then some negatedInt else none
  | .str s =>
    match PayloadKind.ofText s with
    | .booleanText => some negatedBool
    | .integerText => some negatedInt
    | _ => some shiftedChar
  | _ => none

/-- The text that a leaf's space works on. -/
def leafInput : Json → String
  | .str s => s
  | j => j.compact

/-- A mutated text as a value of the type that the leaf had. -/
def restore (leaf : Json) (mutated : String) : Json :=
  match leaf with
  | .bool _ => ((Text.readBool? mutated).map Json.bool).getD (.str mutated)
  | .int _ => ((Text.readInt64? mutated).map Json.ofInt64).getD (.str mutated)
  | _ => .str mutated

mutual

/-- The leaves of a value at the end of a path. -/
def leavesAt (path : List String) : Json → List Leaf
  | .obj members => leavesOf path members
  | v => if (leafSpace? v).isSome then [⟨path, v⟩] else []

def leavesOf (path : List String) : List (String × Json) → List Leaf
  | [] => []
  | (k, v) :: ms => leavesAt (path ++ [k]) v ++ leavesOf path ms

end

/-- The leaves of an object in order. -/
def leaves (members : List (String × Json)) : List Leaf :=
  leavesOf [] members

/-- The value with another one put at the end of a path. -/
def putAt (v : Json) : List String → Json → Json
  | [], _ => v
  | k :: ks, .obj members =>
    match ks, Entries.find? k members with
    | [], _ => .obj (Entries.insert k v members)
    | _, some child => .obj (Entries.insert k (putAt v ks child) members)
    | _, none => .obj members
  | _, j => j

/-- Where the walk of one leaf stands. -/
structure Cursor where
  field : String
  accumulator : Json
  deriving Inhabited

namespace Cursor

def codec : Codec (Accumulator String UInt64) := .accumulator .text .word

/-- The start of a leaf's walk. -/
def ofLeaf (l : Leaf) : Cursor :=
  ⟨l.field, codec.write ⟨leafInput l.value, 0⟩⟩

def toJson (c : Cursor) : Json :=
  .object [("field", .str c.field), ("accumulator", c.accumulator)]

def ofJson? (j : Json) : Option Cursor := do
  let r ← Record.ofJson? 2 j
  return ⟨← r.required "field" 0 Json.str?, ← r.required "accumulator" 1 some⟩

/-- A cursor for each leaf begun so far. -/
def listCodec : Codec (List Cursor) :=
  ⟨fun cs => .arr (cs.map toJson), Json.list? ofJson?⟩

end Cursor

/-- How objects are encoded in payloads. -/
structure ObjectEncoding (P : Type) where
  decode? : P → Option (List (String × Json))
  encode : Json → P

def objectText : ObjectEncoding String :=
  ⟨fun s => (Json.parse? s).bind Json.obj?, Json.compact⟩

def objectBytes : ObjectEncoding (List UInt8) :=
  ⟨fun bs => (textOf? bs).bind fun s => (Json.parse? s).bind Json.obj?,
    fun j => bytesOf j.compact⟩

namespace ObjectEncoding

variable {P : Type}

/-- The leaves of a payload; a payload that is no object has none. -/
def leavesOf (e : ObjectEncoding P) (p : P) : List Leaf :=
  ((e.decode? p).map leaves).getD []

/-- The number of leaves. -/
def fieldCount (e : ObjectEncoding P) (p : P) : Nat :=
  (e.leavesOf p).length

/-- One step of a leaf: the mutated payload, and where the leaf goes on if it does. -/
structure LeafStep (P : Type) where
  result : P
  next : Option Cursor

/-- A step of the leaf that the cursor names. -/
def stepLeaf (e : ObjectEncoding P) (p : P) (c : Cursor) : Option (LeafStep P) := do
  let members ← e.decode? p
  let leaf ← (leaves members).find? fun l => l.field == c.field
  let space ← leafSpace? leaf.value
  let a ← Cursor.codec.read? c.accumulator
  let s := space.stage (leafInput leaf.value) a
  let next ← match s.hasNext, s.next with
    | true, .ok a' => some (some ⟨c.field, Cursor.codec.write a'⟩)
    | true, .error _ => none
    | false, _ => some none
  return ⟨e.encode (putAt (restore leaf.value s.result) leaf.path (.obj members)), next⟩

/-- The cursor of the leaf that comes after the ones begun. -/
def following (e : ObjectEncoding P) (reference : P) (begun : Nat) : List Cursor :=
  (((e.leavesOf reference)[begun]?).map Cursor.ofLeaf).toList

/-- A step of the last leaf begun; a cursor that names no leaf leaves the payload as it is. -/
def step (e : ObjectEncoding P) (p : P) (a : Accumulator P (List Cursor)) :
    Stage P (List Cursor) P :=
  let taken := a.place.getLast?.bind (e.stepLeaf p)
  let result := (taken.map (·.result)).getD p
  match taken.bind (·.next) with
  | some cursor => ⟨result, true, .ok ⟨a.reference, a.place.dropLast ++ [cursor]⟩⟩
  | none =>
    ⟨result, decide (a.place.length < e.fieldCount a.reference),
      .ok ⟨a.reference, a.place ++ e.following a.reference a.place.length⟩⟩

/-- The walk through all leaves. -/
def walker (e : ObjectEncoding P) : Walker P (List Cursor) P :=
  ⟨fun p => ⟨p, e.following p 0⟩, e.step⟩

end ObjectEncoding

end Faultline.Mutation
