import Faultline.Execution

/-!
# Counterexamples

The faults of an execution that failed, kept for a replay.  Each failure names the trail of its
call by a text and may hold anything else; a call is looked up by the text of its trail, first as
it stands, then as the trail that the text is.
-/

namespace Faultline

/-- A failure that was captured, with the trail that its text is, if it is one. -/
structure Failure where
  index : String
  trail : Option Trail
  record : Json

structure Counterexample where
  failures : List Failure

namespace Failure

/-- A record names its call under this name. -/
def indexName : String := "execution_index"

def ofJson (record : Json) : Except Error Failure :=
  match (record.get? indexName).bind Json.str? with
  | some text => .ok ⟨text, Trail.parse? text, record⟩
  | none => .error (.counterexample (.unnamedFailure record))

def ofFault (t : Trail) (f : Fault) : Failure :=
  ⟨t.text, some t, f.toObject.put indexName (.str t.text)⟩

end Failure

namespace Counterexample

/-- The document inside: a text to be read, or an object. -/
def inner (document : Json) : Except Error Json :=
  match document.get? "TestExecution" with
  | some (.str text) =>
    match Json.parse? text with
    | some j => .ok j
    | none => .error (.counterexample .innerNotJson)
  | some (.obj members) => .ok (.obj members)
  | _ => .error (.counterexample .missingExecution)

def ofJson (document : Json) : Except Error Counterexample := do
  let execution ← inner document
  let some entries := (execution.get? "failures").bind Json.arr?
    | throw (.counterexample .missingFailures)
  return ⟨← entries.mapM Failure.ofJson⟩

/-- The counterexample in a text. -/
def parse (text : String) : Except Error Counterexample :=
  match Json.parse? text with
  | some j => ofJson j
  | none => .error (.counterexample .notJson)

/-- The faults of a plan, for replay. -/
def ofPlan (p : Plan) : Counterexample :=
  ⟨p.entries.map fun e => .ofFault e.1 e.2⟩

def toJson (c : Counterexample) : Json :=
  .object [("TestExecution",
    .str (Json.object [("failures", .arr (c.failures.map (·.record)))]).compact)]

/-- The text of a file that holds the counterexample. -/
def text (c : Counterexample) : String :=
  c.toJson.pretty

def size (c : Counterexample) : Nat := c.failures.length

/-- The failure of a call: one with the same text goes before one with the same trail. -/
def find? (c : Counterexample) (index : String) : Option Failure :=
  match c.failures.find? fun f => f.index == index with
  | some f => some f
  | none => do
    let t ← Trail.parse? index
    c.failures.find? fun f => f.trail == some t

def record? (c : Counterexample) (index : String) : Option Json :=
  (c.find? index).map (·.record)

/-- The record of a call, where there is none the bare name of the call. -/
def lookup (c : Counterexample) (index : String) : Json :=
  (c.record? index).getD (.object [(Failure.indexName, .str index)])

/-- The fault to inject into a call. -/
def fault (c : Counterexample) (index : String) : Except Error (Option Fault) :=
  match c.record? index with
  | some record => Fault.ofObject record
  | none => .ok none

@[simp] theorem size_ofPlan (p : Plan) : (ofPlan p).size = p.entries.length := by
  simp [ofPlan, size]

/-- A call without a record is looked up as its bare name, and gets no fault. -/
theorem fault_of_record?_eq_none {c : Counterexample} {index : String}
    (h : c.record? index = none) : c.fault index = .ok none := by
  simp [fault, h]

end Counterexample

end Faultline
