import Faultline.Analysis
import Faultline.Config
import Faultline.Execution
import Faultline.Report.Basic

/-!
# Explorers

An explorer decides about calls in process and walks through combinations of faults, one execution
after the other.  The first execution is free of faults.  Every call that is registered, and every
mutation that leaves a next one, extends the plan of the execution at hand by one fault; a plan
that is new is queued for an execution of its own.  Exploration ends when an execution is retired
and the queue is empty.
-/

namespace Faultline

structure Explorer where
  /-- Plans to carry out, the next one first. -/
  queue : List Plan
  /-- Plans of retired executions, as they were queued and as they were carried out. -/
  explored : List Plan
  /-- The plan of the execution at hand; the first execution has none. -/
  plan : Option Plan
  /-- The execution at hand. -/
  current : Option Execution
  analysis : Option Analysis
  report : Report
  /-- Whether reports pass over repeated calls that were answered from a cache. -/
  lenient : Bool
  deriving Inhabited

namespace Explorer

/-- An explorer about to start its first execution. -/
def start (analysis : Option Analysis) (lenient : Bool) : Explorer :=
  ⟨[], [], none, some .empty, analysis, .empty lenient, lenient⟩

/-- The trail that a call's record names. -/
def trailOf (record : Json) : Except Error Trail :=
  match (record.get? "execution_index").bind Json.str? with
  | none => .error (.malformedResponse (.missingExecutionIndex record))
  | some text =>
    match Trail.parse? text with
    | some t => .ok t
    | none => .error (.serialization "")

/-- Whether a plan was carried out, is being carried out, or is queued. -/
def knows (x : Explorer) (p : Plan) : Bool :=
  x.explored.any (·.same p) || x.queue.any (·.same p) || x.plan.any (·.same p)

/-- The plan of the execution at hand with one more fault is queued, if it is new. -/
def schedule (x : Explorer) (t : Trail) (f : Fault) : Explorer :=
  match x.current with
  | none => x
  | some e =>
    let p : Plan := e.faults.put t f
    if x.knows p then x else { x with queue := x.queue ++ [p] }

/-- The faults to try on a call. -/
def candidates (x : Explorer) (record : Json) : List Fault :=
  match x.analysis with
  | some a => a.candidates (Rpc.textOf "module" record) (Rpc.textOf "method" record)
  | none => []

/-- The fault that the plan at hand has for a call. -/
def planned? (x : Explorer) (t : Trail) : Option Fault :=
  x.plan.bind fun p => p.get? t

/-- The id of a call outside of all executions. -/
def noId : Int64 := -1

/-- A call is registered, its candidate faults are scheduled, and its fault is decided. -/
def register (x : Explorer) (record : Json) : Except Error (Decision × Explorer) := do
  let t ← trailOf record
  match x.current with
  | none => return (⟨noId, none⟩, x)
  | some e =>
    let (id, e) := e.register t record
    let x := { x with current := some e, report := x.report.recordCall t record }
    let x := (x.candidates record).foldl (fun x f => x.schedule t f) x
    return (⟨Int64.ofNat id, x.planned? t⟩, x)

/-- The mutation after the one that a completion reports, if there is a next one. -/
def continuation? (record : Json) : Option Fault := do
  let reported ← record.get? "transformer_fault"
  guard (((reported.get? "has_next").bind Json.bool?).getD false)
  let kind ← (reported.get? "type").bind TransformerKind.ofJson?
  return .transformer ⟨kind, (reported.get? "accumulator").getD .null⟩

/-- Whether a record reports the completion of a call, as opposed to a change on its way. -/
def isCompletion (record : Json) : Bool :=
  (record.get? Execution.recordKind).bind Json.str? == some "invocation_complete"

/-- The outcome of a call is recorded and its continuation is scheduled. -/
def complete (x : Explorer) (record : Json) : Except Error (Receipt × Explorer) := do
  let t ← trailOf record
  let x := { x with
    current := x.current.map fun e => e.complete t record
    report := if isCompletion record then x.report.recordCompletion t record else x.report }
  let x := match continuation? record with
    | some f => x.schedule t f
    | none => x
  return (⟨some t.text⟩, x)

/-- Whether the execution at hand is new to a service: true for each service once. -/
def greet (x : Explorer) (service : String) : Bool × Explorer :=
  match x.current with
  | some e =>
    if e.hasGreeted service then (false, x)
    else (true, { x with current := some (e.greet service) })
  | none => (false, x)

/-- Whether there is an execution at hand. -/
def isRunning (x : Explorer) : Bool := x.current.isSome

/-- The execution at hand is retired and the next plan is taken up. -/
def retire (x : Explorer) : Explorer :=
  match x.current with
  | none => x
  | some e =>
    let x := { x with
      explored := x.explored ++ x.plan.toList ++ [e.faults]
      plan := none, current := none, report := .empty x.lenient }
    match x.queue with
    | [] => x
    | p :: ps =>
      { x with
        queue := ps, plan := some p, current := some (.ofPlan p)
        report := x.report.addFaults (p.entries.map fun f => (f.1, f.2.toObject)) }

/-- A question about the execution at hand, answered no where there is none. -/
def asks (x : Explorer) (q : Execution → Bool) : Bool := x.current.any q

/-- Between executions the next plan in the queue decides whether exploration goes on. -/
theorem isRunning_retire (x : Explorer) (h : x.isRunning = true) :
    x.retire.isRunning = !x.queue.isEmpty := by
  unfold isRunning at h ⊢
  unfold retire
  split
  · next hn => simp [hn] at h
  · simp only
    split <;> simp_all

end Explorer

end Faultline
