import Faultline.Error
import Faultline.Report.Rpc
import Faultline.Text.Fragment
import Faultline.Violation

/-!
# Analyzers

Each analyzer looks for one flaw in the way a test's services call each other.  It sees the calls
one by one, each with the calls before it, and answers with its findings about the call.
-/

namespace Faultline

structure Analyzer where
  name : String
  /-- Whether findings count, by whether the test passed. -/
  countsWhen : Bool → Bool
  /-- Whether the position behind an earlier call is compared with that of the call observed. -/
  looksBehind : Rpc → Bool := fun _ => false
  observe : (earlier : List Rpc) → Rpc → Except ReportFlaw (List Warning)

namespace Analyzer

/-- The findings about a call whose position, like those of the earlier calls, is a word of 64 bits;
no position is behind the last one. -/
def observeWords (a : Analyzer) (earlier : List Rpc) (r : Rpc) :
    Except Violation (Except ReportFlaw (List Warning)) :=
  if earlier.any fun p => a.looksBehind p && 0xFFFFFFFFFFFFFFFF ≤ p.position then .error .overflow
  else .ok (a.observe earlier r)

/-- The findings about calls that come after some others. -/
def observeFrom (a : Analyzer) (earlier : List Rpc) : List Rpc → Except ReportFlaw (List Warning)
  | [] => .ok []
  | r :: rs => do
    let here ← a.observe earlier r
    return here ++ (← a.observeFrom (earlier ++ [r]) rs)

/-- The findings about all calls. -/
def run (a : Analyzer) (rs : List Rpc) : Except ReportFlaw (List Warning) :=
  a.observeFrom [] rs

/-! ### Calls that repeat earlier ones -/

/-- The members of a response that can be its outcome, the first of them first. -/
def outcomeNames : List String :=
  ["return_value", "exception", "byzantine_fault", "transformer_fault"]

def outcome? (response : Json) : Option Json :=
  outcomeNames.findSome? response.get?

/-- What calls that repeat each other have in common: the texts of signature, arguments and
outcome, one after the other. -/
def repetitionKey (r : Rpc) (outcome : Json) : String :=
  r.signature?.getD "" ++ r.argumentsText ++ outcome.compact

/-- The key of a call that was answered. -/
def repetitionKey? (r : Rpc) : Option String := do
  return repetitionKey r (← outcome? (← r.response))

/-- An answered call with the key of an earlier one; `lenient` passes over cached answers. -/
def redundantRpc (lenient : Bool) : Analyzer where
  name := "RedundantRPC"
  countsWhen _ := true
  observe earlier r :=
    match r.response with
    | none => .ok []
    | some response =>
      match outcome? response with
      | none => .error (.noOutcome r.trail.text)
      | some outcome =>
        if (earlier.filterMap repetitionKey?).contains (repetitionKey r outcome) &&
            !(lenient && r.cached) then
          .ok [{
            trail := r.trail
            name := "RedundantRPC"
            description := "An RPC to " ++ r.method ++
              " repeats an earlier RPC with the same arguments and the same response."
            recommendation := "Reuse the earlier response instead of issuing the RPC again."
            impact := "Redundant RPCs add latency and multiply the faults explored for one " ++
              "logical call."
            details := r.method }]
        else .ok []

/-! ### Failures that nobody injected -/

/-- The code of an exception, in a response or in a fault. -/
def codeAt (j : Option Json) (kind : String) : Option String :=
  ((j.bind fun j => j.path? [kind, "metadata", "code"])).bind Json.str?

def unimplementedCode : String := "UNIMPLEMENTED"

/-- A call that failed because nothing implements it, in a test that passed. -/
def unimplementedFailures : Analyzer where
  name := "UnimplementedFailures"
  countsWhen passed := passed
  observe _ r :=
    if codeAt r.response "exception" == some unimplementedCode &&
        codeAt r.fault "forced_exception" != some unimplementedCode then
      .ok [{
        trail := r.trail
        name := "UnimplementedFailures"
        description := "The RPC to " ++ r.method ++
          " failed as UNIMPLEMENTED and the test still passed."
        recommendation := "Implement the method, or make the test assert on this failure."
        impact := "The test passes without exercising the functionality it targets."
        details := r.method }]
    else .ok []

/-! ### Data that flows from call to call -/

/-- How many characters two texts must share to be called related. -/
def sharedLength : Nat := 10

/-- What two texts share, if it is long enough. -/
def shared? (s t : String) : Option String :=
  let common := Text.longestCommon s t
  if sharedLength ≤ common.length then some common else none

/-- The value that a call returned. -/
def returned? (r : Rpc) : Option Json := do
  (← r.response).get? "return_value"

/-- A request with a part of the response of the call just before it, to the same module. -/
def responseBecomesRequest : Analyzer where
  name := "ResponseBecomesRequest"
  countsWhen _ := true
  looksBehind p := (returned? p).isSome
  observe earlier r := .ok (earlier.filterMap fun p => do
    let value ← returned? p
    if p.position + 1 = r.position ∧ p.module = r.module then
      let common ← shared? r.argumentsText value.compact
      return {
        trail := r.trail
        name := "ResponseBecomesRequest"
        description := "The following string (" ++ common ++ ") used in a request to " ++
          r.method ++ " was found in a previous response from " ++ p.method
        recommendation := "Have the service that produced the value pass it on, or combine the " ++
          "two RPCs."
        impact := "Round-tripping a response through the caller couples the two RPCs and " ++
          "doubles the failure surface."
        details := r.method }
    else none)

/-- A call of the same method as the call just before it, with arguments that differ but share a
long part. -/
def singleMutations : Analyzer where
  name := "MultipleInvocationsForIndividualMutations"
  countsWhen _ := true
  looksBehind _ := true
  observe earlier r := .ok (earlier.filterMap fun p => do
    if p.position + 1 = r.position ∧ p.method = r.method ∧ (p.arguments == r.arguments) = false then
      let common ← shared? r.argumentsText p.argumentsText
      return {
        trail := r.trail
        name := "MultipleInvocationsForIndividualMutations"
        description := "The following string (" ++ common ++ ") was used in a request to " ++
          p.method ++ " and used again to the same method in this test execution."
        recommendation := "Batch the mutations into a single RPC."
        impact := "Each extra RPC is another call that can fail part way through the sequence."
        details := r.method }
    else none)

/-- The analyzers of every report. -/
def all (lenient : Bool) : List Analyzer :=
  [redundantRpc lenient, unimplementedFailures, responseBecomesRequest, singleMutations]

/-- The findings of several analyzers that count. -/
def runAll (as : List Analyzer) (passed : Bool) (rs : List Rpc) :
    Except ReportFlaw (List Warning) := do
  let found ← as.mapM fun a =>
    match a.run rs with
    | .ok warnings => .ok (if a.countsWhen passed then warnings else [])
    | .error flaw => .error (.analyzerFailed a.name flaw)
  return found.flatten

end Analyzer

end Faultline
