import Faultline.Source.Basic

/-!
# Remote sources

A source at the other end of a channel that carries requests to a control plane.  The answer to a
registration must be a decision; the answer to a report may be anything.
-/

namespace Faultline

/-- A request to the control plane. -/
structure Request where
  verb : String
  endpoint : String
  headers : List (String × String)
  body : Option Json

/-- An answer of the control plane. -/
structure Response where
  status : UInt16
  body : String

/-- A way to send requests; one that cannot be sent fails with a reason. -/
structure Channel (σ : Type) where
  send : Request → σ → Except String Response × σ

namespace Channel

variable {σ : Type}

/-- Nothing is at the other end. -/
def unreachable : Channel σ := ⟨fun _ s => (.error "unreachable", s)⟩

end Channel

namespace Source

namespace Remote

/-- Requests of the instrumentation itself are marked, so that nobody instruments them. -/
def markHeader : String × String := ("X-Filibuster-Instrumentation", "true")

def updateHeader (update : Bool) : String × String :=
  ("X-Filibuster-Is-Update", Text.boolText update)

def endpoint (base path : String) : String :=
  base ++ "filibuster/" ++ path

def newExecution (base service : String) : Request :=
  ⟨"GET", endpoint base ("new-test-execution/" ++ service), [markHeader], none⟩

def registration (base : String) (record : Json) : Request :=
  ⟨"PUT", endpoint base "create", [markHeader], some record⟩

def completion (base : String) (record : Json) (update : Bool) : Request :=
  ⟨"POST", endpoint base "update", [updateHeader update, markHeader], some record⟩

/-- The body of an answer that came through. -/
def bodyOf (r : Request) : Except String Response → Except Error String
  | .error reason => .error (.transport r.endpoint reason)
  | .ok a =>
    if a.status = 200 then .ok a.body else .error (.unexpectedStatus r.endpoint a.status)

def readBody (r : Request) (body : String) : Except Error Json :=
  match Json.parse? body with
  | some j => .ok j
  | none => .error (.malformedResponse (.notJson r.endpoint))

def readNewExecution (r : Request) (body : String) : Except Error Bool := do
  let j ← readBody r body
  match (j.get? "new-test-execution").bind Json.bool? with
  | some b => return b
  | none => throw (.malformedResponse (.missingAnswer r.endpoint))

def readDecision (r : Request) (body : String) : Except Error Decision := do
  Decision.ofJson (← readBody r body)

/-- Only a text under the name of the index matters. -/
def readReceipt (body : String) : Receipt :=
  ⟨((Json.parse? body).bind fun j => j.get? "execution_index").bind Json.str?⟩

/-- A request is sent and its answer read. -/
def exchange {σ α : Type} (c : Channel σ) (r : Request) (read : String → Except Error α) (s : σ) :
    Reply σ α :=
  let (a, s) := c.send r s
  .ok (bodyOf r a >>= read, s)

end Remote

/-- A control plane behind a channel, at a base address. -/
def remote {σ : Type} (base : String) (c : Channel σ) : Source σ where
  name := "http"
  isNew service :=
    let r := Remote.newExecution base service
    Remote.exchange c r (Remote.readNewExecution r)
  register record :=
    let r := Remote.registration base record
    Remote.exchange c r (Remote.readDecision r)
  report record update :=
    let r := Remote.completion base record update
    Remote.exchange c r fun body => .ok (Remote.readReceipt body)

end Source

end Faultline
