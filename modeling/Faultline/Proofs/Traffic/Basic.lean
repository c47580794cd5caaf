import Faultline.Proofs.Client

/-!
# Traffic

Many clients in one world, in any order of their steps.  A step that breaks a contract keeps what
it did before, as the operation itself does, and the traffic goes on; the violation is noted.
The ids of the requests that the calls make are drawn from outside, one for each client.
-/

namespace Faultline

/-- What a client is made of. -/
structure Opening where
  callsite : Callsite
  /-- The context of the request that the caller serves. -/
  incoming : Context
  /-- Another request than the one of the context. -/
  requestId : Option String := none
  preliminary : Option String := none
  transport : Option String := none

def Opening.client (o : Opening) (outgoingId : String) : Client :=
  let c := Client.make o.callsite o.incoming outgoingId
  { c with
    requestId := o.requestId.getD c.requestId
    preliminary := o.preliminary
    transport := o.transport }

/-- A step of one of the clients, which are numbered in the order in which they were made. -/
inductive Move where
  | create (o : Opening)
  | prepare (i : Nat)
  /-- Another callsite of the same service takes the place of the client's. -/
  | update (i : Nat) (callsite : Callsite)
  | register (i : Nat)

structure Traffic (σ : Type) where
  world : World σ
  clients : List Client
  violations : List Violation

namespace Traffic

variable {σ : Type}

/-- A world before there are clients. -/
def start (w : World σ) : Traffic σ := ⟨w, [], []⟩

/-- What an operation of the client numbered `i` makes of the traffic. -/
def settle (t : Traffic σ) (i : Nat) : EStateM.Result Violation (Session σ) Unit → Traffic σ
  | .ok _ s => { t with world := s.world, clients := t.clients.set i s.client }
  | .error v s => ⟨s.world, t.clients.set i s.client, t.violations ++ [v]⟩

def act (t : Traffic σ) (i : Nat) (a : Client → Client.Act σ Unit) : Traffic σ :=
  match t.clients[i]? with
  | some c => t.settle i (a c ⟨c, t.world⟩)
  | none => t

def step (h : Harness σ) (ids : Nat → String) (t : Traffic σ) : Move → Traffic σ
  | .create o => { t with clients := t.clients ++ [o.client (ids t.clients.length)] }
  | .prepare i => t.act i fun _ => Client.prepare h
  | .update i callsite => t.act i fun c =>
      Client.updateCallsite h { callsite with service := c.callsite.service }
  | .register i => t.act i fun _ => Client.register h

def run (h : Harness σ) (ids : Nat → String) (t : Traffic σ) (moves : List Move) : Traffic σ :=
  moves.foldl (step h ids) t

end Traffic

end Faultline
