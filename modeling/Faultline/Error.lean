import Faultline.Json.Printer

/-!
# Errors

What a caller is expected to handle, by kind and cause, and the text of each.  The wording lives
here only: other modules name the cause.
-/

namespace Faultline

/-- What is wrong with an answer or a report from the other side. -/
inductive ResponseFlaw where
  | missingGeneratedId (body : Json)
  | missingExecutionIndex (payload : Json)
  | notJson (endpoint : String)
  | missingAnswer (endpoint : String)
  | described (text : String)

/-- What is wrong with a counterexample. -/
inductive CounterexampleFlaw where
  | unreadable
  | notJson
  | innerNotJson
  | missingExecution
  | missingFailures
  | unnamedFailure (record : Json)
  | described (text : String)

/-- What is wrong with an analysis configuration. -/
inductive AnalysisFlaw where
  | notAnObject
  | badPattern (pattern : String)
  | badRule (name : String)
  | described (text : String)

/-- Why no mutation can be made. -/
inductive TransformerFlaw where
  | unreadablePayload
  | unreadableAccumulator
  | emptyCatalog
  | unregistered (payloadKind : String) (payload : Json)
  | described (text : String)

/-- Why no report can be made. -/
inductive ReportFlaw where
  | noOutcome (trail : String)
  | analyzerFailed (analyzer : String) (cause : ReportFlaw)
  | described (text : String)

inductive Error where
  | serialization (detail : String)
  | transport (endpoint detail : String)
  | unexpectedStatus (endpoint : String) (status : UInt16)
  | malformedResponse (flaw : ResponseFlaw)
  | counterexample (flaw : CounterexampleFlaw)
  | analysis (flaw : AnalysisFlaw)
  | transformer (flaw : TransformerFlaw)
  | report (flaw : ReportFlaw)
  | io (detail : String)

namespace ResponseFlaw

def text : ResponseFlaw → String
  | missingGeneratedId body => "missing generated_id in " ++ body.compact
  | missingExecutionIndex payload => "missing execution_index in " ++ payload.compact
  | notJson endpoint => endpoint
  | missingAnswer endpoint => endpoint ++ ": missing new-test-execution"
  | described t => t

end ResponseFlaw

namespace CounterexampleFlaw

def text : CounterexampleFlaw → String
  | unreadable => "cannot read file"
  | notJson => "not JSON"
  | innerNotJson => "TestExecution"
  | missingExecution => "missing TestExecution"
  | missingFailures => "missing failures array"
  | unnamedFailure record => "failure without execution_index: " ++ record.compact
  | described t => t

end CounterexampleFlaw

namespace AnalysisFlaw

def text : AnalysisFlaw → String
  | notAnObject => "analysis file must be a JSON object"
  | badPattern pattern => "bad pattern " ++ pattern
  | badRule name => "rule " ++ name
  | described t => t

end AnalysisFlaw

namespace TransformerFlaw

def text : TransformerFlaw → String
  | unreadablePayload => "cannot read payload"
  | unreadableAccumulator => "cannot read accumulator"
  | emptyCatalog => "no database exceptions registered"
  | unregistered kind payload =>
    "no transformer registered for " ++ kind ++ " payload " ++ payload.compact
  | described t => t

end TransformerFlaw

namespace ReportFlaw

def text : ReportFlaw → String
  | noOutcome trail => "response at " ++ trail ++ " carries no outcome"
  | analyzerFailed analyzer cause =>
    "analyzer " ++ analyzer ++ " failed: Report error: " ++ cause.text
  | described t => t

end ReportFlaw

namespace Error

/-- The name of an error's kind. -/
def kind : Error → String
  | serialization _ => "Serialization"
  | transport _ _ => "Transport"
  | unexpectedStatus _ _ => "UnexpectedStatus"
  | malformedResponse _ => "MalformedResponse"
  | counterexample _ => "Counterexample"
  | analysis _ => "AnalysisConfiguration"
  | transformer _ => "Transformer"
  | report _ => "Report"
  | io _ => "Io"

/-- What stands in front of the text of every error of a kind. -/
def preface : Error → String
  | serialization _ => "Serialization error: "
  | transport endpoint _ => "Transport error calling " ++ endpoint ++ ": "
  | unexpectedStatus _ _ => "Unexpected status "
  | malformedResponse _ => "Malformed response: "
  | counterexample _ => "Counterexample error: "
  | analysis _ => "Analysis configuration error: "
  | transformer _ => "Transformer error: "
  | report _ => "Report error: "
  | io _ => "I/O error: "

/-- What tells an error from the others of its kind. -/
def detail : Error → String
  | serialization detail | transport _ detail | io detail => detail
  | unexpectedStatus endpoint status => Nat.repr status.toNat ++ " from " ++ endpoint
  | malformedResponse flaw => flaw.text
  | counterexample flaw => flaw.text
  | analysis flaw => flaw.text
  | transformer flaw => flaw.text
  | report flaw => flaw.text

def message (e : Error) : String :=
  e.preface ++ e.detail

/-- Whether a decision source failed to decide, as opposed to a flaw on this side. -/
def isDecisionFailure : Error → Bool
  | transport _ _ | unexpectedStatus _ _ | malformedResponse _ | serialization _ => true
  | _ => false

end Error

/-- A step with another one behind it succeeds when both do. -/
theorem bind_eq_ok {ε α β : Type} {x : Except ε α} {g : α → Except ε β} {b : β} :
    (x >>= g) = .ok b ↔ ∃ a, x = .ok a ∧ g a = .ok b := by
  cases x <;> simp [bind, Except.bind]

/-- It fails when the first one does, or when that one succeeds and the second one fails. -/
theorem bind_eq_error {ε α β : Type} {x : Except ε α} {g : α → Except ε β} {e : ε} :
    (x >>= g) = .error e ↔ x = .error e ∨ ∃ a, x = .ok a ∧ g a = .error e := by
  cases x <;> simp [bind, Except.bind]

end Faultline
