import Faultline.Context
import Faultline.Harness

/-!
# Servers

The side of a call that serves it.  The context of the call goes into the storage of the request,
its clocks in their normal form, and the source is told of the arrival; it may give the call
another index, which is then the one that is stored.
-/

namespace Faultline

structure Server where
  service : String
  context : Context
  deriving Inhabited

/-- A server with the storage of the request, in its world. -/
structure Reception (σ : Type) where
  server : Server
  storage : Storage
  world : World σ

namespace Server

variable {σ : Type}

/-- The latency that the caller asks for, if there is any. -/
def forcedSleepMs (s : Server) : Option UInt64 :=
  s.context.forcedSleepMs.filter fun ms => 0 < ms

/-- A clock in its normal form. -/
def normalClock (text : Option String) : String :=
  ((text.map Clock.parse).getD .empty).text

/-- The storage with the context of the call. -/
def store (s : Server) (storage : Storage) : Storage :=
  (((storage.setRequestId s.context.requestId).setClock
    (some (normalClock s.context.clock))).setOriginClock
    (some (normalClock s.context.originClock))).setIndex s.context.index

/-- The record of the arrival. -/
def arrivalRecord (s : Server) (index : String) : Json :=
  .object [("instrumentation_type", .str "request_received"),
    ("generated_id", .ofOption .ofInt64 s.context.generatedId),
    ("target_service_name", .str s.service), ("execution_index", .str index)]

/-- The reception with another index for the call. -/
def rename (r : Reception σ) (index : String) : Reception σ :=
  { r with
    server := { r.server with context := { r.server.context with index := some index } }
    storage := r.storage.setIndex (some index) }

/-- The call arrives. -/
def receive (h : Harness σ) : EStateM Violation (Reception σ) Unit := do
  modify fun r => { r with storage := r.server.store r.storage }
  let r ← get
  match r.server.context.index with
  | none => return ()
  | some index =>
    if !h.consults then return ()
    match h.source.report (r.server.arrivalRecord index) false r.world.source with
    | .error v => throw v
    | .ok (reply, source) =>
      let r := { r with world := { r.world with source } }
      match reply with
      | .ok ⟨some index⟩ => set (rename r index)
      | _ => set r

end Server

end Faultline
