import Faultline.Proofs.Operation
import Faultline.Proofs.Traffic.Basic
import Faultline.Server

/-!
# Applications

Clients and servers in one world, with the storages of the requests that are served, in any order
of their operations.  An operation that breaks off keeps what it did before, and the application
goes on; what every operation gave back is kept in order.
-/

namespace Faultline

structure Application (σ : Type) where
  world : World σ
  storages : List Storage
  clients : List Client
  servers : List Server
  /-- What the operations gave back. -/
  results : List (Except Violation Yield)

namespace Application

/-- A step of an application; storages, clients and servers are numbered in the order in which
they came. -/
inductive Move where
  | keep (s : Storage)
  /-- The application itself changes a storage. -/
  | edit (k : Nat) (f : Storage → Storage)
  /-- A client for a call from the request with a storage. -/
  | create (k : Nat) (callsite : Callsite) (requestId preliminary transport : Option String)
  | operate (i : Nat) (op : Operation)
  /-- A server for a call from elsewhere. -/
  | accept (service : String) (c : Context)
  /-- A server for the call of a client, whose context comes as headers. -/
  | deliver (i : Nat) (service : String)
  /-- A call is received into a storage. -/
  | receive (j k : Nat)

variable {σ : Type}

/-- A world before there is anything else. -/
def start (w : World σ) : Application σ := ⟨w, [], [], [], []⟩

/-- An operation of the client numbered `i`. -/
def operate (h : Harness σ) (a : Application σ) (i : Nat) (op : Operation) : Application σ :=
  match a.clients[i]? with
  | some c =>
    let s := after (op.act h) ⟨c, a.world⟩
    { a with
      world := s.world
      clients := a.clients.set i s.client
      results := a.results ++ [given (op.act h) ⟨c, a.world⟩] }
  | none => a

/-- The server numbered `j` receives its call into the storage numbered `k`. -/
def receive (h : Harness σ) (a : Application σ) (j k : Nat) : Application σ :=
  match a.servers[j]?, a.storages[k]? with
  | some server, some storage =>
    let r := after (Server.receive h) ⟨server, storage, a.world⟩
    { a with
      world := r.world
      storages := a.storages.set k r.storage
      servers := a.servers.set j r.server
      results := a.results ++
        [(given (Server.receive h) ⟨server, storage, a.world⟩).map fun _ => .done] }
  | _, _ => a

/-- A step; one of something that is not there changes nothing. -/
def step (h : Harness σ) (ids : Nat → String) (a : Application σ) : Move → Application σ
  | .keep s => { a with storages := a.storages ++ [s] }
  | .edit k f => { a with storages := a.storages.modify k f }
  | .create k callsite requestId preliminary transport =>
    match a.storages[k]? with
    | some s =>
      let o : Opening := ⟨callsite, s.snapshot, requestId, preliminary, transport⟩
      { a with clients := a.clients ++ [o.client (ids a.clients.length)] }
    | none => a
  | .operate i op => a.operate h i op
  | .accept service c => { a with servers := a.servers ++ [⟨service, c⟩] }
  | .deliver i service =>
    match a.clients[i]? with
    | some c => { a with servers := a.servers ++ [⟨service, .ofHeaders c.outgoing.toHeaders⟩] }
    | none => a
  | .receive j k => a.receive h j k

def run (h : Harness σ) (ids : Nat → String) (a : Application σ) (moves : List Move) :
    Application σ :=
  moves.foldl (step h ids) a

end Application

end Faultline
