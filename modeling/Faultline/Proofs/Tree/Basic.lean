import Faultline.Proofs.Naming
import Faultline.Proofs.Server

/-!
# Trees of calls

The calls behind one request, with the requests that they make, in any order of their steps.  A
call is made from the storage of a request that is served, and a call that was named may arrive
anywhere and fill a storage of its own.  The ids of the requests are drawn fresh, and no service
starts over once it has named a call; what happens elsewhere leaves the requests of the tree
alone.
-/

namespace Faultline

/-- The call of a client, with the name that it got. -/
def Call.ofClient {σ : Type} (h : Harness σ) (c : Client) : Call where
  service := c.callsite.service
  request := c.requestId
  id := c.outgoingId
  key := (Key.ofCallsite c.callsite h.config.digesting).rendered
  trail := c.index.trail

/-- What a client does once its call is named. -/
inductive Task where
  | register
  | complete (type : String) (properties : List (String × Json)) (value : Option Json)
  | replace (type : String) (value : Json)
  | mutate (kind : TransformerKind) (value next : Json) (hasNext : Bool)
  | fail (name : String) (cause : Option String) (details : List (String × Json))
  | raise
  | transform (reference : Json)

structure Tree (σ : Type) where
  world : World σ
  /-- The requests that are served, the root request first. -/
  storages : List Storage
  clients : List Client
  /-- The calls that were named, in order. -/
  calls : List Call

namespace Tree

variable {σ : Type}

/-- A step of a tree; storages and clients are numbered in the order in which they came. -/
inductive Move (σ : Type) where
  | create (k : Nat) (callsite : Callsite) (id : String)
  | prepare (i : Nat)
  | perform (i : Nat) (task : Task)
  /-- The call arrives at a service, which keeps the context in a storage. -/
  | serve (i : Nat) (service : String) (into : Storage)
  | elsewhere (w : World σ)

def start (root : Storage) (w : World σ) : Tree σ := ⟨w, [root], [], []⟩

/-- The client numbered `i` has gone on. -/
def settle (t : Tree σ) (i : Nat) (s : Session σ) : Tree σ :=
  { t with world := s.world, clients := t.clients.set i s.client }

/-- A client without a name gets one, unless it breaks off. -/
def prepare (h : Harness σ) (t : Tree σ) (i : Nat) (c : Client) : Tree σ :=
  match Client.prepare h ⟨c, t.world⟩ with
  | .ok _ s => { t.settle i s with calls := t.calls ++ [.ofClient h s.client] }
  | .error _ s => t.settle i s

def serve (h : Harness σ) (t : Tree σ) (c : Client) (service : String) (into : Storage) : Tree σ :=
  { t with
    world := (c.deliver h service into t.world).world
    storages := t.storages ++ [(c.deliver h service into t.world).storage] }

end Tree

/-- The operation of a client behind a task. -/
def Task.act {σ : Type} (h : Harness σ) : Task → Client.Act σ Unit
  | register => Client.register h
  | complete type properties value => Client.completed h type properties value
  | replace type value => Client.replaced h type value
  | mutate kind value next hasNext => Client.mutated h kind value next hasNext
  | fail name cause details => Client.failed h name cause details
  | raise => do
    let _ ← Client.raise h
  | transform reference => do
    let _ ← Client.transform h reference

theorem Task.keepsName_act {σ : Type} (h : Harness σ) (task : Task) (s : Session σ) :
    Client.KeepsName (task.act h) s := by
  cases task with
  | register => exact Client.keepsName_register h s
  | complete type properties value => exact Client.keepsName_completed h type properties value s
  | replace type value => exact Client.keepsName_replaced h type value s
  | mutate kind value next hasNext => exact Client.keepsName_mutated h kind value next hasNext s
  | fail name cause details => exact Client.keepsName_failed h name cause details s
  | raise =>
      exact Client.keepsName_bind (Client.keepsName_raise h s) fun _ s' _ =>
        Client.keepsName_pure () s'
  | transform reference =>
      exact Client.keepsName_bind (Client.keepsName_transform h reference s) fun _ s' _ =>
        Client.keepsName_pure () s'

namespace Tree

variable {σ : Type}

/-- A step; one of a client or a storage that is not there changes nothing. -/
def step (h : Harness σ) (t : Tree σ) : Move σ → Tree σ
  | .create k callsite id =>
    match t.storages[k]? with
    | some s => { t with clients := t.clients ++ [.make callsite s.snapshot id] }
    | none => t
  | .prepare i =>
    match t.clients[i]? with
    | some c => t.prepare h i c
    | none => t
  | .perform i task =>
    match t.clients[i]? with
    | some c => t.settle i (after (task.act h) ⟨c, t.world⟩)
    | none => t
  | .serve i service into =>
    match t.clients[i]? with
    | some c => t.serve h c service into
    | none => t
  | .elsewhere w => { t with world := w }

def run (h : Harness σ) (t : Tree σ) (moves : List (Move σ)) : Tree σ :=
  moves.foldl (step h) t

/-- The indexes of the calls, as they show. -/
def names (t : Tree σ) : List String :=
  t.calls.map fun c => c.trail.text

/-- The ids that the clients drew. -/
def ids (t : Tree σ) : List String :=
  t.clients.map (·.outgoingId)

/-- A request of the tree. -/
def Concerns (t : Tree σ) (root : Storage) (request : String) : Prop :=
  request = root.serving ∨ request ∈ t.ids

/-- Which steps belong to a tree of calls behind a root request. -/
def Allows (h : Harness σ) (root : Storage) (t : Tree σ) : Move σ → Prop
  | .create _ _ id => ¬ t.Concerns root id ∧ ∀ service, t.world.state.index? service id = none
  | .prepare i => ∀ c ∈ t.clients[i]?, ∀ w, h.greeting c.callsite.service t.world = .ok (true, w) →
      ∀ p ∈ t.calls, p.service ≠ c.callsite.service
  | .perform _ _ => True
  | .serve i _ _ => ∀ c ∈ t.clients[i]?, c.outgoingId ∈ t.calls.map (·.id)
  | .elsewhere w => ∀ service request, t.Concerns root request →
      w.state.index? service request = t.world.state.index? service request

/-- A number is left for the name of a client's call. -/
def HasRoom (h : Harness σ) (root : Storage) (t : Tree σ) (c : Client) : Prop :=
  ∀ u, Call.Opens root.serving root.trail t.calls c.requestId u →
    u.maxCount (Key.ofCallsite c.callsite h.config.digesting).rendered +
      (Call.slot c.callsite.service c.requestId
        (Key.ofCallsite c.callsite h.config.digesting).rendered t.calls).length + 1 < UInt64.size

/-- The trees behind a root request. -/
inductive Reached (h : Harness σ) (root : Storage) : Tree σ → Prop
  | start {w : World σ} : (∀ service, w.state.index? service root.serving = none) →
    Reached h root (start root w)
  | step {t : Tree σ} {m : Move σ} : Reached h root t → t.Allows h root m →
    Reached h root (t.step h m)

end Tree

end Faultline
