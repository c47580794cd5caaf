import Faultline.Ledger
import Faultline.Report.Analyzer

/-!
# Reports

What was seen during one execution: every call with its latest record and completion, the faults
that were injected, and the findings of the analyzers.  A report is written at most once.
-/

namespace Faultline

/-- A report as it was written. -/
structure WrittenReport where
  iteration : UInt32
  passed : Bool
  script : String
  deriving DecidableEq, Inhabited

structure Report where
  iteration : UInt32
  passed : Bool
  calls : Ledger Trail Json
  completions : Ledger Trail Json
  faults : Ledger Trail Json
  cached : List Trail
  warnings : List Warning
  /-- Whether repeated calls are passed over when they were answered from a cache. -/
  lenient : Bool
  written : Option WrittenReport

namespace Report

def empty (lenient : Bool) : Report :=
  ⟨0, false, .empty, .empty, .empty, [], [], lenient, none⟩

instance : Inhabited Report := ⟨empty false⟩

def recordCall (r : Report) (t : Trail) (record : Json) : Report :=
  { r with calls := r.calls.put t record }

def recordCompletion (r : Report) (t : Trail) (record : Json) : Report :=
  { r with completions := r.completions.put t record }

def addFaults (r : Report) (faults : List (Trail × Json)) : Report :=
  { r with faults := r.faults.putAll faults }

def recordCached (r : Report) (t : Trail) : Report :=
  { r with cached := if t ∈ r.cached then r.cached else t :: r.cached }

/-- The calls that were recorded, with what is known of each. -/
def rpcs (r : Report) : List Rpc :=
  r.calls.entries.zipIdx.map fun ((trail, invocation), position) =>
    { position, trail, invocation
      fault := r.faults.get? trail
      response := r.completions.get? trail
      cached := trail ∈ r.cached }

def findings (r : Report) (passed lenient : Bool) : Except ReportFlaw (List Warning) :=
  Analyzer.runAll (Analyzer.all lenient) passed r.rpcs

/-- The report with its findings up to date. -/
def analyzed (r : Report) : Except ReportFlaw Report := do
  return { r with warnings := ← r.findings r.passed r.lenient }

def warningJson (w : Warning) : Json :=
  .object [("dei", .str w.trail.text), ("name", .str w.name),
    ("recommendation", .str w.recommendation), ("impact", .str w.impact),
    ("description", .str w.description), ("details", .str w.details)]

/-- A call with the findings about it; its id is its number in the order of the calls. -/
def rpcJson (r : Report) (rpc : Rpc) : Json :=
  .object [("generated_id", .str (Nat.repr (rpc.position + 1))), ("dei", .str rpc.trail.text),
    ("request", rpc.invocation), ("response", rpc.response.getD .emptyObject),
    ("fault", rpc.fault.getD .emptyObject),
    ("warnings", .arr ((r.warnings.filter fun w => w.trail == rpc.trail).map warningJson))]

/-- The document of a report with the given id and time of creation. -/
def document (r : Report) (id createdAt : String) : Json :=
  .object [("iteration", .ofNat r.iteration.toNat), ("status", .bool r.passed),
    ("rpcs", .arr (r.rpcs.map r.rpcJson)), ("uuid", .str id), ("created_at", .str createdAt)]

/-- The document, after the analyzers; the report keeps their findings. -/
def toJson (r : Report) (id createdAt : String) : Except ReportFlaw (Json × Report) := do
  let r ← r.analyzed
  return (r.document id createdAt, r)

/-- The document as a script that names it. -/
def script (document : Json) : String :=
  "var analysis = " ++ document.pretty ++ ";"

/-- The report is written for an iteration, unless it was written before. -/
def write (r : Report) (id createdAt : String) (iteration : UInt32) (failed : Bool) :
    Except ReportFlaw WrittenReport × Report :=
  match r.written with
  | some w => (.ok w, r)
  | none =>
    let r := { r with iteration, passed := !failed }
    match r.toJson id createdAt with
    | .ok (document, r) =>
      let w := ⟨iteration, !failed, script document⟩
      (.ok w, { r with written := some w })
    | .error flaw => (.error flaw, r)

/-- Why a report was not written. -/
def writeFailure (flaw : ReportFlaw) : String :=
  "rendering test execution report: " ++ (Error.report flaw).message

end Report

end Faultline
