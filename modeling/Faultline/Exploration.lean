import Faultline.Client
import Faultline.Server

/-!
# Explorations

A test as a tree of calls, and its exploration: the test is run once for every execution that the
explorer has, until there is none left.  In a run every call is instrumented on both sides; a call
with a fault that aborts it is not made, and its fault is reported as its outcome.
-/

namespace Faultline

/-- A call, who serves it, what it returns, and the calls that are made while serving it. -/
inductive CallTree where
  | call (callsite : Callsite) (callee : String) (value : Option Json) (nested : List CallTree)

/-- What became of a call. -/
inductive Outcome where
  | ok
  | exception (display : String)
  | byzantine (value : Json)
  | transformed (value : Json)
  | failure (metadata : Json)
  /-- The fault could not be applied. -/
  | error (e : Error)

/-- A call as a run shows it. -/
structure CallRow where
  index : String
  generatedId : Int64
  clock : String
  outcome : Outcome

/-- A run in progress: the world, the number of clients so far, and a row for every call that was
started, empty until the call ends. -/
structure Run (σ : Type) where
  world : World σ
  clients : Nat
  rows : List (Option CallRow)

namespace Run

variable {σ : Type}

abbrev Act (σ : Type) := EStateM Violation (Run σ)

/-- An operation of a client; what it did to the world stays done. -/
def act {α : Type} (c : Client) (a : Client.Act σ α) : Act σ (α × Client) := do
  let r ← get
  match a ⟨c, r.world⟩ with
  | .ok b s =>
    set { r with world := s.world }
    return (b, s.client)
  | .error v s =>
    set { r with world := s.world }
    throw v

/-- A server takes in a context; the storage of its request comes into being. -/
def receive (h : Harness σ) (service : String) (context : Context) : Act σ Storage := do
  let r ← get
  match Server.receive h ⟨⟨service, context⟩, .empty, r.world⟩ with
  | .ok _ s =>
    set { r with world := s.world }
    return s.storage
  | .error v s =>
    set { r with world := s.world }
    throw v

/-- An id that no client had. -/
def freshId (name : Nat → String) : Act σ String := do
  let r ← get
  set { r with clients := r.clients + 1 }
  return name r.clients

/-- A call is started; its row is the one at the given place. -/
def startRow : Act σ Nat := do
  let r ← get
  set { r with rows := r.rows ++ [none] }
  return r.rows.length

def endRow (place : Nat) (c : Client) (o : Outcome) : Act σ Unit :=
  modify fun r =>
    { r with rows := r.rows.set place (some ⟨c.index.text, c.generatedId, c.clock.text, o⟩) }

/-- The fault of a call that is not made is carried out and reported. -/
def abort (h : Harness σ) (c : Client) (value : Option Json) : Act σ (Outcome × Client) := do
  match c.fault with
  | some (.byzantine b) =>
    let (_, c) ← act c (Client.replaced h b.type b.value)
    return (.byzantine b.value, c)
  | some (.transformer _) =>
    match ← act c (Client.transform h (value.getD .null)) with
    | (.ok mutated, c) => return (.transformed (mutated.getD .null), c)
    | (.error e, c) =>
      let (_, c) ← act c (Client.failed h "transformer" none [])
      return (.error e, c)
  | some (.failure metadata) =>
    let (_, c) ← act c (Client.failed h "failure" none [])
    return (.failure metadata, c)
  | _ =>
    let (i, c) ← act c (Client.raise h)
    return (.exception ((i.map Injection.display).getD ""), c)

/-- The type that every response is reported with. -/
def responseType : String := "Reply"

mutual

/-- A call is made while the request of a storage is served; the answer is whether it was
aborted. -/
def call (h : Harness σ) (name : Nat → String) (stop : Bool) (storage : Storage) :
    CallTree → Act σ Bool
  | .call callsite callee value nested => do
    let place ← startRow
    let c := Client.make callsite storage.snapshot (← freshId name)
    let (_, c) ← act c (Client.prepare h)
    let (_, c) ← act c (Client.register h)
    if c.shouldAbort then
      let (o, c) ← abort h c value
      endRow place c o
      return true
    else
      let inner ← receive h callee (.ofHeaders c.outgoing.toHeaders)
      calls h name stop inner nested
      let (_, c) ← act c (Client.completed h responseType [] value)
      endRow place c .ok
      return false

/-- Calls are made one after the other; where `stop` holds, an aborted call is the last. -/
def calls (h : Harness σ) (name : Nat → String) (stop : Bool) (storage : Storage) :
    List CallTree → Act σ Unit
  | [] => return ()
  | t :: ts => do
    let aborted ← call h name stop storage t
    if aborted && stop then return () else calls h name stop storage ts

end

end Run

/-- A run of the test as the exploration saw it. -/
structure Iteration where
  rows : List (Option CallRow)
  injected : Bool
  failed : Nat
  queued : Nat
  explored : Nat
  /-- The violation that broke the run off. -/
  ending : Option Violation

namespace Exploration

/-- The request that the test serves in every run. -/
def requestId : String := "r"

/-- One run of a test, with the state forgotten at its end. -/
def iteration (h : Harness Explorer) (name : Nat → String) (stop : Bool) (test : List CallTree)
    (world : World Explorer) (clients : Nat) : Iteration × World Explorer × Nat :=
  let (ending, r) :=
    match Run.calls h name stop (Storage.empty.setRequestId (some requestId)) test
      ⟨world, clients, []⟩ with
    | .ok _ r => (none, r)
    | .error v r => (some v, r)
  let world := Harness.teardown r.world
  let x := world.source
  (⟨r.rows, x.asks Execution.isFaulty, (x.current.map fun e => e.failures.entries.length).getD 0,
    x.queue.length, x.explored.length, ending⟩, world, r.clients)

/-- At most `n` runs, each followed by the retirement of its execution. -/
def explore (h : Harness Explorer) (name : Nat → String) (stop : Bool) (test : List CallTree) :
    Nat → World Explorer → Nat → List Iteration × World Explorer
  | 0, world, _ => ([], world)
  | n + 1, world, clients =>
    if world.source.isRunning then
      let (i, world, clients) := iteration h name stop test world clients
      let (is, world) := explore h name stop test n
        { world with source := world.source.retire } clients
      (i :: is, world)
    else ([], world)

end Exploration

end Faultline
