import Faultline.Proofs.Context
import Faultline.Proofs.Explorer.Run
import Faultline.Proofs.Frame
import Faultline.Proofs.Index
import Faultline.Proofs.Trail
import Faultline.Server

/-!
# What a call delivers

The storage of the callee holds the id that the caller drew and the trail of its index, provided
that the source does not rename calls that arrive.  An explorer answers an arrival with the trail
that it reads, and so keeps it (`keepsArrivals_explorer`).
-/

namespace Faultline

variable {σ : Type}

namespace Storage

/-- The request that is served. -/
def serving (s : Storage) : String :=
  s.context.requestId.getD ""

/-- The trail of the call that is served; one that cannot be read counts as empty. -/
def trail (s : Storage) : Trail :=
  (s.context.index.bind Trail.parse?).getD []

end Storage

/-- A client goes on from the trail of the call that its caller serves. -/
theorem Client.incomingIndex_make (callsite : Callsite) (s : Storage) (id : String) :
    (make callsite s.snapshot id).incomingIndex = .ofTrail s.trail := by
  unfold incomingIndex make Storage.trail Storage.snapshot
  simp only
  cases s.context.index with
  | none => rfl
  | some text =>
      simp only [Option.bind_some, Index.parse?]
      cases Trail.parse? text <;> rfl

/-! ### Sources that do not rename -/

/-- A source that answers an arrival with the trail that the call has. -/
def Source.KeepsArrivals (s : Source σ) : Prop :=
  ∀ (server : Server) (text named : String) (x x' : σ),
    s.report (server.arrivalRecord text) false x = .ok (.ok ⟨some named⟩, x') →
    Trail.parse? named = Trail.parse? text

theorem Explorer.trailOf_arrivalRecord {server : Server} {text : String} {t : Trail}
    (h : trailOf (server.arrivalRecord text) = .ok t) : Trail.parse? text = some t := by
  have hget : ((server.arrivalRecord text).get? "execution_index").bind Json.str? =
      some text := by
    cbv
  unfold trailOf at h
  rw [hget] at h
  cases hparse : Trail.parse? text with
  | none => simp [hparse] at h
  | some u =>
      simp only [hparse] at h
      exact congrArg some (Except.ok.inj h)

theorem Source.keepsArrivals_explorer : Source.explorer.KeepsArrivals := by
  intro server text named x x' h
  cases ht : Explorer.trailOf (server.arrivalRecord text) with
  | error e =>
      simp only [explorer, Explorer.complete_of_unnamed ht, replyOf] at h
      cases h
  | ok t =>
      simp only [explorer, Explorer.complete_eq ht, replyOf] at h
      obtain rfl : t.text = named := by
        injection h with h
        injection h with h
        injection h with h
        injection h with h
        exact Option.some.inj h
      rw [Trail.parse?_text, Explorer.trailOf_arrivalRecord ht]

theorem Source.KeepsArrivals.installed {s : Source σ} (hs : s.KeepsArrivals) :
    s.installed.KeepsArrivals := by
  intro server text named x x' h
  simp only [Source.installed, whenInstalled] at h
  cases x with
  | none => cases h
  | some x =>
      simp only at h
      split at h
      · rename_i hreport
        cases h
        exact hs server text named x _ hreport
      · cases h

/-! ### Arrivals -/

namespace Server

/-- What an arrival does; one without an index is not reported. -/
theorem receive_eq (h : Harness σ) (r : Reception σ) : receive h r =
    match r.server.context.index with
    | none => .ok () { r with storage := r.server.store r.storage }
    | some text =>
      if h.consults then
        match h.source.report (r.server.arrivalRecord text) false r.world.source with
        | .ok (.ok ⟨some named⟩, x) =>
          .ok () (rename ⟨r.server, r.server.store r.storage, { r.world with source := x }⟩ named)
        | .ok (_, x) => .ok () ⟨r.server, r.server.store r.storage, { r.world with source := x }⟩
        | .error v => .error v { r with storage := r.server.store r.storage }
      else .ok () { r with storage := r.server.store r.storage } := by
  unfold receive
  simp only [bind, EStateM.bind, modify, modifyGet, MonadStateOf.modifyGet, EStateM.modifyGet, get,
    getThe, MonadStateOf.get, EStateM.get]
  cases r.server.context.index with
  | none => rfl
  | some text =>
      cases h.consults with
      | false => rfl
      | true =>
          simp only [Bool.not_true, Bool.false_eq_true, if_false, if_true]
          rcases h.source.report (r.server.arrivalRecord text) false r.world.source with
            v | ⟨reply, x⟩
          · rfl
          · rcases reply with e | ⟨_ | named⟩ <;> rfl

/-- What an arrival leaves behind. -/
theorem after_receive (h : Harness σ) {r : Reception σ} {text : String}
    (htext : r.server.context.index = some text) :
    after (receive h) r =
      if h.consults then
        match h.source.report (r.server.arrivalRecord text) false r.world.source with
        | .ok (.ok ⟨some named⟩, x) =>
          rename ⟨r.server, r.server.store r.storage, { r.world with source := x }⟩ named
        | .ok (_, x) => ⟨r.server, r.server.store r.storage, { r.world with source := x }⟩
        | .error _ => { r with storage := r.server.store r.storage }
      else { r with storage := r.server.store r.storage } := by
  rw [after, receive_eq, htext]
  cases h.consults with
  | false => rfl
  | true =>
      simp only [if_true]
      rcases h.source.report (r.server.arrivalRecord text) false r.world.source with v | ⟨reply, x⟩
      · rfl
      · rcases reply with e | ⟨_ | named⟩ <;> rfl

/-- Whatever the source answers, an arrival only asks it and stores the context, and at most the
index is another one. -/
theorem exists_after_receive (h : Harness σ) (r : Reception σ) :
    ∃ index source, after (receive h) r =
      ⟨{ r.server with context := { r.server.context with index } },
        (r.server.store r.storage).setIndex index, { r.world with source }⟩ := by
  cases htext : r.server.context.index with
  | none =>
      rw [after, receive_eq, htext]
      exact ⟨r.server.context.index, r.world.source, rfl⟩
  | some text =>
      rw [after_receive h htext]
      cases h.consults with
      | false => exact ⟨r.server.context.index, r.world.source, rfl⟩
      | true =>
          simp only [if_true]
          split
          · next named x _ => exact ⟨some named, x, rfl⟩
          · next x _ _ => exact ⟨r.server.context.index, x, rfl⟩
          · exact ⟨r.server.context.index, r.world.source, rfl⟩

/-- The state is left alone, and the storage serves the request that came with the call. -/
theorem receive_spec (h : Harness σ) (r : Reception σ) :
    (after (receive h) r).world.state = r.world.state ∧
      (after (receive h) r).storage.serving = r.server.context.requestId.getD "" := by
  obtain ⟨index, source, hafter⟩ := exists_after_receive h r
  rw [hafter]
  exact ⟨rfl, rfl⟩

theorem state_receive (h : Harness σ) (r : Reception σ) :
    (after (receive h) r).world.state = r.world.state :=
  (receive_spec h r).1

/-- The storage holds the trail that came with the call. -/
theorem trail_receive {h : Harness σ} (hkeeps : h.consults = true → h.source.KeepsArrivals)
    {r : Reception σ} {text : String} (htext : r.server.context.index = some text) :
    (after (receive h) r).storage.trail = (Trail.parse? text).getD [] := by
  have hstored : (r.server.store r.storage).trail = (Trail.parse? text).getD [] := by
    simp [Storage.trail, store, Storage.setIndex, htext]
  rw [after_receive h htext]
  cases hconsults : h.consults with
  | false => exact hstored
  | true =>
      simp only [if_true]
      split
      · rename_i named x hreport
        have hnamed := hkeeps hconsults r.server text named r.world.source x hreport
        simp [rename, Storage.trail, Storage.setIndex, hnamed]
      · exact hstored
      · exact hstored

end Server

namespace Client

/-- A call arrives at a service, with its context carried by its headers. -/
def deliver (h : Harness σ) (c : Client) (service : String) (into : Storage) (w : World σ) :
    Reception σ :=
  after (Server.receive h) ⟨⟨service, .ofHeaders c.outgoing.toHeaders⟩, into, w⟩

/-- The callee serves the request that the caller made. -/
theorem deliver_spec (h : Harness σ) (c : Client) (service : String) (into : Storage)
    (w : World σ) : (c.deliver h service into w).world.state = w.state ∧
      (c.deliver h service into w).storage.serving = c.outgoingId := by
  obtain ⟨hstate, hserving⟩ :=
    Server.receive_spec h ⟨⟨service, .ofHeaders c.outgoing.toHeaders⟩, into, w⟩
  refine ⟨hstate, hserving.trans ?_⟩
  simp only [Context.requestId_ofHeaders, outgoing, Option.getD_some]

/-- It goes on from the trail of the call, whatever the storage held before. -/
theorem trail_deliver {h : Harness σ} (hkeeps : h.consults = true → h.source.KeepsArrivals)
    (c : Client) (service : String) (into : Storage) (w : World σ) :
    (c.deliver h service into w).storage.trail = c.index.trail := by
  have htext : (Context.ofHeaders c.outgoing.toHeaders).index = some c.index.text :=
    Context.index_ofHeaders c.outgoing
  refine (Server.trail_receive hkeeps htext).trans ?_
  rw [Index.text, Trail.parse?_text, Option.getD_some]

end Client

end Faultline
