import Faultline.Proofs.Operation
import Faultline.Proofs.Server
import Faultline.Source.Script

/-!
# The latency of a call on both sides

A fault may ask for a latency in two ways: an exception has it among its details, a failure among
its metadata.  The caller takes it from either, while the context that goes out takes it from an
exception only.  So both sides agree for every fault but a failure with a latency
(`latency_arrives_iff`).
-/

namespace Faultline

variable {σ : Type}

/-- The latency that the metadata of a failure ask for. -/
def Fault.failureSleepMs? : Fault → Option UInt64
  | failure metadata => (metadata.get? "sleep").bind Json.uint64?
  | _ => none

theorem Context.forcedSleepMs_ofHeaders (c : Context) :
    (ofHeaders c.toHeaders).forcedSleepMs = c.forcedSleepMs :=
  forcedSleepPart.field_toHeaders c

/-- A latency of zero counts as none, also where it stands for a latency that is not given. -/
theorem filter_pos_map_getD {α : Type} (o : Option α) (f : α → Option UInt64) :
    (o.map fun a => (f a).getD 0).filter (0 < ·) = (o.bind f).filter (0 < ·) := by
  cases o with
  | none => rfl
  | some a =>
      simp only [Option.map_some, Option.bind_some]
      cases f a <;> rfl

/-- The arrival of a call leaves its latency alone. -/
theorem Server.forcedSleepMs_receive (h : Harness σ) (r : Reception σ) :
    (after (receive h) r).server.forcedSleepMs = r.server.forcedSleepMs := by
  obtain ⟨index, source, hafter⟩ := exists_after_receive h r
  rw [hafter]
  rfl

namespace Client

/-- The callee is asked for the latency of an exception. -/
theorem forcedSleepMs_arriving (c : Client) (service : String) :
    (⟨service, .ofHeaders c.outgoing.toHeaders⟩ : Server).forcedSleepMs =
      (c.exception?.bind (·.sleepMs?)).filter (0 < ·) := by
  rw [Server.forcedSleepMs, Context.forcedSleepMs_ofHeaders]
  exact filter_pos_map_getD c.exception? ForcedException.sleepMs?

/-- The caller waits for the latency of an exception or of a failure. -/
theorem forcedSleepMs_eq (c : Client) :
    c.forcedSleepMs = (c.exception?.bind (·.sleepMs?)).or (c.fault.bind Fault.failureSleepMs?) := by
  unfold forcedSleepMs exception?
  rcases c.fault with _ | e | metadata | b | t
  · rfl
  · exact (Option.or_none).symm
  · rfl
  · rfl
  · rfl

/-- No fault is an exception and a failure. -/
theorem failureSleepMs?_of_exception {c : Client} {e : ForcedException}
    (he : c.exception? = some e) : c.fault.bind Fault.failureSleepMs? = none := by
  unfold exception? at he
  split at he
  · next hfault =>
      rw [hfault]
      rfl
  · cases he

/-- Whatever was decided for a call, its callee is asked for the latency of an exception and for no
other, be it before or after the call has arrived.  That is the latency that the caller waits for,
zero taken for none, unless a failure was decided that has a latency. -/
theorem latency_arrives_iff (c : Client) (service : String) (h : Harness σ) (into : Storage)
    (w : World σ) :
    let server : Server := ⟨service, .ofHeaders c.outgoing.toHeaders⟩
    server.forcedSleepMs = (c.exception?.bind (·.sleepMs?)).filter (0 < ·) ∧
      (c.deliver h service into w).server.forcedSleepMs = server.forcedSleepMs ∧
      (server.forcedSleepMs = c.forcedSleepMs.filter (0 < ·) ↔
        ∀ ms, c.fault.bind Fault.failureSleepMs? = some ms → ms = 0) := by
  intro server
  have harriving : server.forcedSleepMs = _ := c.forcedSleepMs_arriving service
  refine ⟨harriving, Server.forcedSleepMs_receive h _, ?_⟩
  rw [harriving, forcedSleepMs_eq]
  cases he : c.exception? with
  | some e =>
      rw [failureSleepMs?_of_exception he, Option.or_none]
      simp
  | none =>
      rw [Option.bind_none, Option.none_or, Option.filter_none, eq_comm, Option.filter_eq_none_iff]
      simp only [decide_eq_true_eq, UInt64.not_lt, UInt64.le_zero_iff]

end Client

/-- A call for which a failure with a latency is decided, on its way out. -/
def delayedCall : Client :=
  let h : Harness Script := .plain .scripted
  let answer : Json := .object [("generated_id", .ofNat 1),
    ("failure_metadata", .object [("sleep", .ofNat 100)])]
  let c := Client.make ⟨"a", "b", "m", .empty, "f", 1, ""⟩ { requestId := some "r" } "x"
  (after (Client.register h) (after (Client.prepare h)
    ⟨c, ⟨.empty, ⟨[], [.value answer], [], 0⟩⟩⟩)).client

/-- The caller waits and the callee does not. -/
theorem failure_latency_lost :
    delayedCall.phase = .beforeInvoked ∧ delayedCall.forcedSleepMs = some 100 ∧
      (⟨"b", .ofHeaders delayedCall.outgoing.toHeaders⟩ : Server).forcedSleepMs = none := by
  refine ⟨by decide +kernel, by decide +kernel, by decide +kernel⟩

end Faultline
