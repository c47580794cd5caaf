import Faultline.Mutation.Machine
import Faultline.Transformer

/-!
# Devices

Machines over JSON: what a program holds of a transformer.  Payloads and accumulators are read
before a step is taken, so that one which cannot be read leaves the memory alone.
-/

namespace Faultline

/-- A machine whose payloads, accumulators and results are JSON values. -/
structure Device where
  kind : TransformerKind
  Memory : Type
  fresh : Memory
  start : Json → Except Error Json
  transform : Json → Json → EStateM Violation Memory (Except Error Unit)
  hasNext : Memory → Bool
  result : Memory → Except Violation Json
  next : Memory → Except Violation Json

namespace Device

variable {M P C O : Type}

/-- A machine with the ways to write its payloads, places and results. -/
def ofMachine (kind : TransformerKind) (w : Machine M P C O) (p : Codec P) (c : Codec C)
    (write : O → Json) : Device where
  kind := kind
  Memory := M
  fresh := w.fresh
  start j := do
    let reference ← Transformer.readPayload p j
    return (Codec.accumulator p c).write (w.start reference)
  transform j acc := do
    match Transformer.readPayload p j, Transformer.readAccumulator p c acc with
    | .ok payload, .ok a =>
      w.transform payload a
      return .ok ()
    | .error e, _ => return .error e
    | .ok _, .error e => return .error e
  hasNext := w.hasNext
  result s := (w.result s).map write
  next s := (w.next s).map (Codec.accumulator p c).write

def ofSpace (kind : TransformerKind) (m : Space P O) (p : Codec P) (write : O → Json) : Device :=
  ofMachine kind m.machine p .word write

def onText (kind : TransformerKind) (m : Space String String) : Device :=
  ofSpace kind m .text .str

def onBytes (kind : TransformerKind) (m : Space (List UInt8) (List UInt8)) : Device :=
  ofSpace kind m .bytes Codec.writeBytes

def ofObjects (kind : TransformerKind) (e : Mutation.ObjectEncoding P) (p : Codec P) : Device :=
  ofMachine kind e.machine p Mutation.Cursor.listCodec p.write

def ofCatalog (kind : TransformerKind) (exceptions : List StoreException) : Device :=
  ofSpace kind (Mutation.catalog exceptions) .json id

/-- A device of a kind; the exceptions matter to one kind only. -/
def make (exceptions : List StoreException) : TransformerKind → Device
  | .text => onText .text Mutation.shiftedChar
  | .textBytes => onBytes .textBytes Mutation.shiftedByte
  | .bitBytes => onBytes .bitBytes Mutation.flippedBit
  | .booleanText => onText .booleanText Mutation.negatedBool
  | .booleanBytes => onBytes .booleanBytes Mutation.negatedBoolBytes
  | .integerText => onText .integerText Mutation.negatedInt
  | .unexpectedText => ofSpace .unexpectedText Mutation.unexpectedText .text (.ofOption .str)
  | .unexpectedBytes =>
    ofSpace .unexpectedBytes Mutation.unexpectedBytes .bytes (.ofOption Codec.writeBytes)
  | .redisTimeout => ofCatalog .redisTimeout [.redisTimeout]
  | .storeException => ofCatalog .storeException exceptions
  | .objectText => ofObjects .objectText Mutation.objectText .text
  | .objectBytes => ofObjects .objectBytes Mutation.objectBytes .bytes

end Device

end Faultline
