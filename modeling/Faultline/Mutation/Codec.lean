import Faultline.Json.Record
import Faultline.Mutation.Space

/-!
# Accumulators as JSON

How payloads, places and accumulators are written and read, so that a walk can go on elsewhere.
An accumulator is a record of its reference value and its context.
-/

namespace Faultline

/-- A way to write values and to read them back. -/
structure Codec (α : Type) where
  write : α → Json
  read? : Json → Option α

namespace Codec

def text : Codec String := ⟨.str, Json.str?⟩

def word : Codec UInt64 := ⟨.ofUInt64, Json.uint64?⟩

def json : Codec Json := ⟨id, some⟩

/-- A number that is a byte. -/
def byte? (j : Json) : Option UInt8 := do
  let n ← j.uint64?
  if n ≤ 255 then some n.toUInt8 else none

def writeBytes (bs : List UInt8) : Json :=
  .arr (bs.map fun b => .ofNat b.toNat)

def bytes : Codec (List UInt8) := ⟨writeBytes, Json.list? byte?⟩

variable {P C : Type}

def writeAccumulator (p : Codec P) (c : Codec C) (a : Accumulator P C) : Json :=
  .object [("referenceValue", p.write a.reference), ("context", c.write a.place)]

def readAccumulator? (p : Codec P) (c : Codec C) (j : Json) : Option (Accumulator P C) := do
  let r ← Record.ofJson? 2 j
  return ⟨← r.required "referenceValue" 0 p.read?, ← r.required "context" 1 c.read?⟩

def accumulator (p : Codec P) (c : Codec C) : Codec (Accumulator P C) :=
  ⟨writeAccumulator p c, readAccumulator? p c⟩

end Codec

end Faultline
