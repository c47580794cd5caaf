import Faultline.Context
import Faultline.Harness
import Faultline.Injection

/-!
# Clients

The side of a call that makes it.  A call is prepared, which ticks the clock of the request and
names the call by an execution index; it is registered, which may decide a fault; and exactly one
outcome is reported.  Every operation says which phase it leads to and breaks off where the phase
may not come next; what it did before that stays done.  A source that cannot be asked leaves the
call without a fault.
-/

namespace Faultline

structure Client where
  callsite : Callsite
  /-- The context of the request that the caller serves. -/
  incoming : Context
  requestId : String
  /-- The id of the request that the call makes. -/
  outgoingId : String
  originClock : Clock
  clock : Clock
  index : Index
  /-- An index of the call from an earlier pass. -/
  preliminary : Option String
  /-- A label for the transport. -/
  transport : Option String
  /-- The id of the registration, negative before there is one. -/
  generatedId : Int64
  fault : Option Fault
  phase : Phase
  deriving Inhabited

/-- A client in its world. -/
structure Session (σ : Type) where
  client : Client
  world : World σ

namespace Client

/-- A client for a call that is made while the request of a context is served. -/
def make (callsite : Callsite) (incoming : Context) (outgoingId : String) : Client where
  callsite := callsite
  incoming := incoming
  requestId := incoming.requestId.getD ""
  outgoingId := outgoingId
  originClock := (incoming.originClock.map Clock.parse).getD .empty
  clock := .empty
  index := .empty
  preliminary := none
  transport := none
  generatedId := -1
  fault := none
  phase := .created

/-! ### What a client shows -/

def exception? (c : Client) : Option ForcedException :=
  match c.fault with
  | some (.exception e) => some e
  | _ => none

def failure? (c : Client) : Option Json :=
  match c.fault with
  | some (.failure metadata) => some metadata
  | _ => none

def byzantine? (c : Client) : Option ByzantineFault :=
  match c.fault with
  | some (.byzantine b) => some b
  | _ => none

def transformer? (c : Client) : Option TransformerFault :=
  match c.fault with
  | some (.transformer t) => some t
  | _ => none

/-- Whether the call must not be made. -/
def shouldAbort (c : Client) : Bool :=
  match c.fault with
  | some (.exception e) => e.truth? "abort" != some false && e.truth? "defer" != some true
  | some (.failure metadata) => ((metadata.get? "abort").bind Json.bool?).getD true
  | some _ => true
  | none => false

/-- The latency to inject. -/
def forcedSleepMs (c : Client) : Option UInt64 :=
  match c.fault with
  | some (.exception e) => e.sleepMs?
  | some (.failure metadata) => (metadata.get? "sleep").bind Json.uint64?
  | _ => none

/-- What the call carries to the callee. -/
def outgoing (c : Client) : Context where
  requestId := some c.outgoingId
  generatedId := if -1 < c.generatedId then some c.generatedId else none
  clock := some c.clock.text
  originClock := some c.originClock.text
  index := some c.index.text
  forcedSleepMs := c.exception?.map fun e => e.sleepMs?.getD 0

/-- The index from an earlier pass, as a member of a record. -/
def preliminaryMember (c : Client) : List (String × Json) :=
  match c.preliminary with
  | some text => [("preliminary_execution_index", .str text)]
  | none => []

/-- The record of the call's registration. -/
def invocationRecord (c : Client) : Json :=
  .object ([("instrumentation_type", .str "invocation"),
    ("source_service_name", .str c.callsite.service), ("module", .str c.callsite.module),
    ("method", .str c.callsite.method), ("args", c.callsite.arguments.toJson),
    ("kwargs", .emptyObject), ("callsite_file", .str c.callsite.file),
    ("callsite_line", .ofNat c.callsite.line.toNat), ("full_traceback", .str ""),
    ("metadata", .object [("rpc_type", .str (c.transport.getD ""))]),
    ("vclock", c.clock.toJson), ("origin_vclock", c.originClock.toJson),
    ("execution_index", .str c.index.text)] ++ c.preliminaryMember)

/-- The record of the call's completion with an outcome. -/
def completionRecord (c : Client) (kind : String) (outcome : Json) : Json :=
  .object ([("instrumentation_type", .str "invocation_complete"),
    ("generated_id", .ofInt64 c.generatedId), ("execution_index", .str c.index.text),
    ("vclock", c.clock.toJson), ("module", .str c.callsite.module),
    ("method", .str c.callsite.method)] ++ c.preliminaryMember ++ [(kind, outcome)])

/-! ### What a client does -/

variable {σ : Type}

/-- An operation of a client in its world; a violation keeps what was done before it. -/
abbrev Act (σ : Type) := EStateM Violation (Session σ)

def client : Act σ Client := return (← get).client

def setClient (c : Client) : Act σ Unit := modify fun s => { s with client := c }

/-- A change of the per-request state. -/
def onState {α : Type} (f : State → α × State) : Act σ α := do
  let s ← get
  let (a, state) := f s.world.state
  set { s with world := { s.world with state } }
  return a

/-- A question to the source. -/
def ask {α : Type} (q : σ → Reply σ α) : Act σ (Except Error α) := do
  let s ← get
  match q s.world.source with
  | .ok (r, source) =>
    set { s with world := { s.world with source } }
    return r
  | .error v => throw v

/-- The phase changes, if it may. -/
def become (p : Phase) : Act σ Unit := do
  let c ← client
  if c.phase.canBecome p then setClient { c with phase := p }
  else throw (.invalidTransition c.phase p)

/-- Whether the execution is new to the calling service; no, if nobody can be asked. -/
def isFirst (h : Harness σ) : Act σ Bool := do
  if !h.consults then return false
  let c ← client
  match ← ask (h.source.isNew c.callsite.service) with
  | .ok b => return b
  | .error _ => return false

/-- The index that a request came with; an unreadable one counts as empty. -/
def incomingIndex (c : Client) : Index :=
  (c.incoming.index.bind Index.parse?).getD .empty

/-- The clock of the request after a tick of the service. -/
def tickFrom (c : Client) (stored : Clock) : Clock :=
  let merged := match c.incoming.clock with
    | some text => (Clock.parse text).merge stored
    | none => stored
  merged.tick c.callsite.service

/-- The name of the call among those of its request; a full counter changes nothing. -/
def nameFrom (h : Harness σ) (c : Client) (i : Index) : Except Violation Index × Index :=
  match i.name (Key.ofCallsite c.callsite h.config.digesting) with
  | .ok (named, after) => (.ok named, after)
  | .error v => (.error v, i)

/-- The call gets its index from the index of the request. -/
def advance (h : Harness σ) : Act σ Unit := do
  let c ← client
  match ← onState fun s => s.updateIndex c.callsite.service c.requestId (c.nameFrom h) with
  | .ok named => setClient { c with index := named }
  | .error v => throw v

/-- The call gets its clock and its index. -/
def prepare (h : Harness σ) : Act σ Unit := do
  become .prepared
  let c ← client
  let service := c.callsite.service
  if ← isFirst h then onState fun s => ((), s.clearService service)
  onState fun s => s.updateSlot service c.requestId fun slot =>
    ((), some (slot.getD c.incomingIndex))
  let clock ← onState fun s => s.updateClock service c.requestId fun stored =>
    let ticked := c.tickFrom stored
    (ticked, ticked)
  setClient { ← client with clock }
  advance h

/-- Another callsite takes the place of the one that the call was prepared for. -/
def updateCallsite (h : Harness σ) (callsite : Callsite) : Act σ Unit := do
  let c ← client
  if c.phase ≠ .prepared then throw .lateCallsite
  setClient { c with callsite }
  advance h

/-- The call is registered and its fault decided: by the counterexample, if there is one. -/
def register (h : Harness σ) : Act σ Unit := do
  become .beforeInvoked
  let c ← client
  match h.counterexample with
  | some e =>
    let fault := match e.fault c.index.text with
      | .ok fault => fault
      | .error _ => none
    setClient { c with fault }
  | none =>
    if h.config.communicationEnabled then
      match ← ask (h.source.register c.invocationRecord) with
      | .ok d => setClient { c with generatedId := d.generatedId, fault := d.fault }
      | .error _ => return ()

/-- The outcome is reported, where the call was registered with a source that is asked. -/
def report (h : Harness σ) (phase : Phase) (kind : String) (outcome : Json) : Act σ Unit := do
  become phase
  let c ← client
  if c.generatedId < 0 || !h.consults then return ()
  let _ ← ask (h.source.report (c.completionRecord kind outcome) false)

/-- The details of an exception that come from the fault behind it. -/
def forcedDetails (c : Client) : List (String × Json) :=
  match c.exception? with
  | some e => ["sleep", "abort"].filterMap fun k => (e.metadata.get? k).map (k, ·)
  | none => []

/-- The call failed; details that are `null` are left out. -/
def failed (h : Harness σ) (name : String) (cause : Option String)
    (details : List (String × Json)) : Act σ Unit := do
  let c ← client
  let metadata := Json.object (c.forcedDetails ++ (cause.map fun s => ("cause", .str s)).toList ++
    details.filter fun d => !d.2.isNull)
  report h .completedException "exception" (.object [("name", .str name), ("metadata", metadata)])

/-- A value was returned in place of the response. -/
def replaced (h : Harness σ) (type : String) (value : Json) : Act σ Unit :=
  report h .completedByzantine "byzantine_fault" (.object [("type", .str type), ("value", value)])

/-- A mutation was returned in place of the response; `next` is where the next one starts. -/
def mutated (h : Harness σ) (kind : TransformerKind) (value next : Json) (hasNext : Bool) :
    Act σ Unit :=
  report h .completedTransformed "transformer_fault"
    (.object [("value", value), ("accumulator", next), ("type", kind.toJson),
      ("has_next", .bool hasNext)])

/-- The response was returned as it came. -/
def completed (h : Harness σ) (type : String) (properties : List (String × Json))
    (value : Option Json) : Act σ Unit :=
  report h .completedOk "return_value"
    (.object ([("__class__", .str type), ("value", value.getD .null)] ++ properties))

/-- The forced exception is raised and reported. -/
def raise (h : Harness σ) : Act σ (Option Injection) := do
  match (← client).exception? with
  | none => return none
  | some e =>
    match Injection.ofForced e with
    | .error v => throw v
    | .ok i =>
      failed h i.name i.cause
        [("code", .str i.code), ("description", .ofOption .str i.description)]
      return some i

/-- One mutation of a reference, from a fault's accumulator or from the start. -/
def mutation (r : Registry) (f : TransformerFault) (reference : Json) :
    Except Error (Json × Mutated) := do
  let t ← r.create f.transformer
  let acc ← if f.accumulator.isNull then t.start reference else pure f.accumulator
  return (acc, ← t.step reference acc)

/-- The decided transformer is applied to a response and the mutation reported.  Where it cannot
be applied, nothing happens. -/
def transform (h : Harness σ) (reference : Json) : Act σ (Except Error (Option Json)) := do
  match (← client).transformer? with
  | none => return .ok none
  | some f =>
    match mutation h.registry f reference with
    | .error e => return .error e
    | .ok (acc, m) =>
      let next ← if m.hasNext then
          match m.next with
          | .ok next => pure next
          | .error v => throw v
        else pure acc
      mutated h f.transformer m.result next m.hasNext
      return .ok (some m.result)

end Client

end Faultline
