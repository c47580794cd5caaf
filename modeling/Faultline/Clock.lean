import Faultline.Json.Parser
import Faultline.Json.Printer
import Faultline.Json.Record
import Faultline.Table

/-!
# Vector clocks

One counter for each service: a service ticks its own counter before every outbound call, and
clocks that meet are merged counter by counter.  A missing counter is zero.  The text of a clock
is a JSON object with the services in order, so that clocks are equal exactly when their texts
are.
-/

namespace Faultline

/-- Causal counters by service. -/
structure Clock where
  counters : Table UInt64
  deriving DecidableEq, Inhabited

namespace Clock

/-- How two clocks stand to each other. -/
inductive Order where
  | equal
  | before
  | after
  | concurrent
  deriving DecidableEq, Repr

def Order.name : Order → String
  | equal => "Equal"
  | before => "Before"
  | after => "After"
  | concurrent => "Concurrent"

def empty : Clock := ⟨Table.empty⟩

def isEmpty (c : Clock) : Bool :=
  c.counters.isEmpty

/-- The last count given for a service is its counter. -/
def ofList (l : List (String × UInt64)) : Clock :=
  ⟨Table.ofList l⟩

/-- The counters in the order of the services. -/
def toList (c : Clock) : List (String × UInt64) :=
  c.counters.toList

/-- The counter of a service, zero where there is none. -/
def get (c : Clock) (service : String) : UInt64 :=
  (c.counters.get? service).getD 0

/-- One more, but no more than a word holds. -/
def bump (n : UInt64) : UInt64 :=
  if n = 0xFFFFFFFFFFFFFFFF then n else n + 1

/-- The service's counter raised by one. -/
def tick (c : Clock) (service : String) : Clock :=
  ⟨c.counters.insert service (bump (c.get service))⟩

/-- The counter of one service raised to at least a count. -/
def raise (c : Clock) (service : String) (count : UInt64) : Clock :=
  ⟨c.counters.insert service (if c.get service < count then count else c.get service)⟩

/-- The larger counter for each service of either clock. -/
def merge (c d : Clock) : Clock :=
  d.toList.foldl (fun m e => m.raise e.1 e.2) c

def mergeAll (cs : List Clock) : Clock :=
  cs.foldl merge empty

/-- No counter of `d` is larger than the one here. -/
def descends (c d : Clock) : Bool :=
  d.toList.all fun e => e.2 ≤ c.get e.1

def compare (c d : Clock) : Order :=
  match d.descends c, c.descends d with
  | true, true => .equal
  | true, false => .before
  | false, true => .after
  | false, false => .concurrent

/-- The order of two clocks where they have one. -/
def ordering? (c d : Clock) : Option Ordering :=
  match c.compare d with
  | .equal => some .eq
  | .before => some .lt
  | .after => some .gt
  | .concurrent => none

/-- Larger somewhere and nowhere smaller. -/
def dominates (c d : Clock) : Bool :=
  c.compare d == .after

def isDominatedBy (c d : Clock) : Bool :=
  d.dominates c

def toJson (c : Clock) : Json :=
  .obj (c.toList.map fun e => (e.1, .ofUInt64 e.2))

def text (c : Clock) : String :=
  c.toJson.compact

/-- A clock written as an object of counters, every one of them legible. -/
def ofDocument? (d : Document) : Option Clock :=
  (d.map? Document.uint64?).map ofList

/-- Strict reading of a clock's text. -/
def parse? (s : String) : Option Clock :=
  (Document.parse? s).bind ofDocument?

/-- Lenient reading: what is no clock is the empty one. -/
def parse (s : String) : Clock :=
  (parse? s).getD empty

@[simp] theorem get_empty (s : String) : empty.get s = 0 := rfl

theorem get_tick (c : Clock) (s t : String) :
    (c.tick s).get t = if t = s then bump (c.get s) else c.get t := by
  unfold tick get
  rw [Table.get?_insert]
  split <;> rfl

theorem get_raise (c : Clock) (s t : String) (n : UInt64) :
    (c.raise s n).get t = if t = s then (if c.get s < n then n else c.get s) else c.get t := by
  unfold raise get
  rw [Table.get?_insert]
  split <;> rfl

end Clock

end Faultline
