import Faultline.Error
import Faultline.Mutation.Catalog
import Faultline.Mutation.Fields

/-!
# Transformers

Walkers over JSON: payloads, accumulators and results all travel as JSON values.  A transformer is
made for a kind, where needed with a catalog of exceptions, and has no memory; an `Instance`
remembers the last step, so that its parts can be asked for one by one.
-/

namespace Faultline

/-- One step of a transformer. -/
structure Mutated where
  result : Json
  hasNext : Bool
  next : Except Violation Json

/-- A walker whose payloads, accumulators and results are JSON values. -/
structure Transformer where
  kind : TransformerKind
  /-- The number of mutations of a payload, zero where it is none for the transformer. -/
  size : Json → Nat
  start : Json → Except Error Json
  step : Json → Json → Except Error Mutated

namespace Transformer

variable {P C O : Type}

def readPayload (p : Codec P) (j : Json) : Except Error P :=
  match p.read? j with
  | some a => .ok a
  | none => .error (.transformer .unreadablePayload)

def readAccumulator (p : Codec P) (c : Codec C) (j : Json) : Except Error (Accumulator P C) :=
  match (Codec.accumulator p c).read? j with
  | some a => .ok a
  | none => .error (.transformer .unreadableAccumulator)

/-- A walker with the ways to write its payloads, places and results. -/
def ofWalker (kind : TransformerKind) (w : Walker P C O) (size : P → Nat) (empty : P)
    (p : Codec P) (c : Codec C) (write : O → Json) : Transformer where
  kind := kind
  size j := size ((p.read? j).getD empty)
  start j := do
    let reference ← readPayload p j
    return (Codec.accumulator p c).write (w.start reference)
  step j acc := do
    let payload ← readPayload p j
    let a ← readAccumulator p c acc
    let s := w.step payload a
    return ⟨write s.result, s.hasNext, s.next.map (Codec.accumulator p c).write⟩

def ofSpace (kind : TransformerKind) (m : Space P O) (empty : P) (p : Codec P)
    (write : O → Json) : Transformer :=
  ofWalker kind m.walker m.count empty p .word write

def onText (kind : TransformerKind) (m : Space String String) : Transformer :=
  ofSpace kind m "" .text .str

def onBytes (kind : TransformerKind) (m : Space (List UInt8) (List UInt8)) : Transformer :=
  ofSpace kind m [] .bytes Codec.writeBytes

def ofObjects (kind : TransformerKind) (e : Mutation.ObjectEncoding P) (empty : P) (p : Codec P) :
    Transformer :=
  ofWalker kind e.walker e.fieldCount empty p Mutation.Cursor.listCodec p.write

def ofCatalog (kind : TransformerKind) (exceptions : List StoreException) : Transformer :=
  ofSpace kind (Mutation.catalog exceptions) .null .json id

/-- The transformer of a kind; the exceptions matter to one kind only. -/
def make (exceptions : List StoreException) : TransformerKind → Transformer
  | .text => onText .text Mutation.shiftedChar
  | .textBytes => onBytes .textBytes Mutation.shiftedByte
  | .bitBytes => onBytes .bitBytes Mutation.flippedBit
  | .booleanText => onText .booleanText Mutation.negatedBool
  | .booleanBytes => onBytes .booleanBytes Mutation.negatedBoolBytes
  | .integerText => onText .integerText Mutation.negatedInt
  | .unexpectedText =>
    ofSpace .unexpectedText Mutation.unexpectedText "" .text (.ofOption .str)
  | .unexpectedBytes =>
    ofSpace .unexpectedBytes Mutation.unexpectedBytes [] .bytes (.ofOption Codec.writeBytes)
  | .redisTimeout => ofCatalog .redisTimeout [.redisTimeout]
  | .storeException => ofCatalog .storeException exceptions
  | .objectText => ofObjects .objectText Mutation.objectText "" .text
  | .objectBytes => ofObjects .objectBytes Mutation.objectBytes [] .bytes

theorem kind_make (exceptions : List StoreException) (k : TransformerKind) :
    (make exceptions k).kind = k := by
  cases k <;> rfl

/-- What an enumeration comes to: the accumulators it used, its results, and its last step. -/
structure Enumeration where
  accumulators : List Json
  results : List Json
  last : Mutated

/-- At most `fuel + 1` steps over a payload from an accumulator. -/
def enumerateFrom (t : Transformer) (payload : Json) : Nat → Json → Except Error Enumeration
  | 0, acc => do
    let s ← t.step payload acc
    return ⟨[acc], [s.result], s⟩
  | fuel + 1, acc => do
    let s ← t.step payload acc
    match s.hasNext, s.next with
    | true, .ok acc' =>
      let e ← enumerateFrom t payload fuel acc'
      return ⟨acc :: e.accumulators, s.result :: e.results, e.last⟩
    | _, _ => return ⟨[acc], [s.result], s⟩

/-- The mutations of a payload from the first on, no more than a positive limit. -/
def enumerate (t : Transformer) (payload : Json) (limit : Nat) : Except Error Enumeration := do
  enumerateFrom t payload (limit - 1) (← t.start payload)

/-- A transformer with the last step it took. -/
structure Instance where
  transformer : Transformer
  last : Option Mutated

namespace Instance

def fresh (t : Transformer) : Instance := ⟨t, none⟩

/-- A step; where the payload or the accumulator cannot be read, nothing changes. -/
def transform (i : Instance) (payload acc : Json) : Except Error Instance := do
  return ⟨i.transformer, some (← i.transformer.step payload acc)⟩

def hasNext (i : Instance) : Bool :=
  match i.last with
  | some s => s.hasNext
  | none => true

def result (i : Instance) : Except Violation Json :=
  match i.last with
  | some s => .ok s.result
  | none => .error .noResult

def next (i : Instance) : Except Violation Json :=
  match i.last with
  | some s => s.next
  | none => .error .noContinuation

end Instance

end Transformer

end Faultline
