import Faultline.Json.Record
import Faultline.Json.Printer
import Faultline.Text.Blank
import Faultline.Text.Numeral

/-!
# Propagated contexts

What a request carries across a call: its id, the id of its registration, two clocks, the
execution index and a forced latency.  The client reads it from the storage of the request that it
serves, the transport carries it as headers, and the server writes it into the callee's storage.
Header names are compared without regard to ASCII case, and the last header of a name counts.
-/

namespace Faultline

structure Context where
  requestId : Option String := none
  generatedId : Option Int64 := none
  clock : Option String := none
  originClock : Option String := none
  index : Option String := none
  forcedSleepMs : Option UInt64 := none
  deriving DecidableEq, Inhabited

namespace Context

def empty : Context := {}

def requestIdHeader : String := "x-filibuster-request-id"
def generatedIdHeader : String := "x-filibuster-generated-id"
def clockHeader : String := "x-filibuster-vclock"
def originClockHeader : String := "x-filibuster-origin-vclock"
def indexHeader : String := "x-filibuster-execution-index"
def forcedSleepHeader : String := "x-filibuster-forced-sleep"

/-- The decimal numeral of a signed word. -/
def int64Text (i : Int64) : String :=
  String.ofList (Json.intChars i.toInt)

/-- A header for a field that is present. -/
def header {α : Type} (name : String) (write : α → String) : Option α → List (String × String)
  | some a => [(name, write a)]
  | none => []

def toHeaders (c : Context) : List (String × String) :=
  header requestIdHeader id c.requestId ++
    header generatedIdHeader int64Text c.generatedId ++
    header clockHeader id c.clock ++
    header originClockHeader id c.originClock ++
    header indexHeader id c.index ++
    header forcedSleepHeader (fun n => Nat.repr n.toNat) c.forcedSleepMs

/-- A context with one more header taken in.  A number that cannot be read counts as missing. -/
def readHeader (c : Context) (h : String × String) : Context :=
  let name := h.1.toLower
  if name = requestIdHeader then { c with requestId := some h.2 }
  else if name = generatedIdHeader then
    { c with generatedId := Text.readInt64? (Text.trim h.2) }
  else if name = clockHeader then { c with clock := some h.2 }
  else if name = originClockHeader then { c with originClock := some h.2 }
  else if name = indexHeader then { c with index := some h.2 }
  else if name = forcedSleepHeader then
    { c with forcedSleepMs := Text.readUInt64? (Text.trim h.2) }
  else c

def ofHeaders (hs : List (String × String)) : Context :=
  hs.foldl readHeader empty

def ofJson? (j : Json) : Option Context := do
  let r ← Record.ofJson? 6 j
  let text (name : String) (i : Nat) : Option (Option String) :=
    r.optional name i (Json.nullable Json.str?)
  return {
    requestId := ← text "request_id" 0
    generatedId := ← r.optional "generated_id" 1 (Json.nullable Json.int64?)
    clock := ← text "vector_clock" 2
    originClock := ← text "origin_vector_clock" 3
    index := ← text "execution_index" 4
    forcedSleepMs := ← r.optional "forced_sleep_ms" 5 (Json.nullable Json.uint64?) }

def toJson (c : Context) : Json :=
  .object [("request_id", .ofOption .str c.requestId),
    ("generated_id", .ofOption .ofInt64 c.generatedId),
    ("vector_clock", .ofOption .str c.clock),
    ("origin_vector_clock", .ofOption .str c.originClock),
    ("execution_index", .ofOption .str c.index),
    ("forced_sleep_ms", .ofOption .ofUInt64 c.forcedSleepMs)]

end Context

/-- The context of the request that is being served, with the four fields that outlive the
request's arrival. -/
structure Storage where
  context : Context
  deriving DecidableEq, Inhabited

namespace Storage

def empty : Storage := ⟨.empty⟩

def setRequestId (s : Storage) (v : Option String) : Storage :=
  ⟨{ s.context with requestId := v }⟩

def setClock (s : Storage) (v : Option String) : Storage :=
  ⟨{ s.context with clock := v }⟩

def setOriginClock (s : Storage) (v : Option String) : Storage :=
  ⟨{ s.context with originClock := v }⟩

def setIndex (s : Storage) (v : Option String) : Storage :=
  ⟨{ s.context with index := v }⟩

/-- The context as a client takes it: what belongs to the arrival alone is left out. -/
def snapshot (s : Storage) : Context :=
  { s.context with generatedId := none, forcedSleepMs := none }

end Storage

end Faultline
