import Faultline.Proofs.Client

/-!
# What a client leaves alone

From its registration on, a client changes neither the per-request state nor what names its call.
Each operation is a sequence of small steps, and what every step leaves alone is left alone by the
sequence (`keepsName_bind`).
-/

namespace Faultline

variable {σ : Type}

/-- Between two sessions nothing has changed that names the call. -/
structure Session.SameName (s s' : Session σ) : Prop where
  callsite : s'.client.callsite = s.client.callsite
  incoming : s'.client.incoming = s.client.incoming
  requestId : s'.client.requestId = s.client.requestId
  outgoingId : s'.client.outgoingId = s.client.outgoingId
  index : s'.client.index = s.client.index
  /-- No call gets a second life. -/
  phase : s'.client.phase = .created → s.client.phase = .created
  state : s'.world.state = s.world.state

namespace Session

theorem SameName.refl (s : Session σ) : SameName s s :=
  ⟨rfl, rfl, rfl, rfl, rfl, id, rfl⟩

theorem SameName.trans {s s' s'' : Session σ} (h : SameName s s') (h' : SameName s' s'') :
    SameName s s'' where
  callsite := h'.callsite.trans h.callsite
  incoming := h'.incoming.trans h.incoming
  requestId := h'.requestId.trans h.requestId
  outgoingId := h'.outgoingId.trans h.outgoingId
  index := h'.index.trans h.index
  phase := fun hcreated => h.phase (h'.phase hcreated)
  state := h'.state.trans h.state

end Session

/-- What an operation leaves behind, be it done or broken off. -/
def after {τ α : Type} (a : EStateM Violation τ α) (s : τ) : τ :=
  match a s with
  | .ok _ s => s
  | .error _ s => s

namespace Client

variable {α β : Type}

/-- An operation that leaves the name of the call alone. -/
def KeepsName (a : Act σ α) (s : Session σ) : Prop :=
  s.SameName (after a s)

/-! ### Small steps -/

theorem keepsName_pure (x : α) (s : Session σ) : KeepsName (pure x) s :=
  .refl s

theorem keepsName_throw (v : Violation) (s : Session σ) : KeepsName (throw v : Act σ α) s :=
  .refl s

theorem keepsName_client (s : Session σ) : KeepsName client s :=
  .refl s

theorem keepsName_bind {a : Act σ α} {f : α → Act σ β} {s : Session σ} (ha : KeepsName a s)
    (hf : ∀ x s', a s = .ok x s' → KeepsName (f x) s') : KeepsName (a >>= f) s := by
  unfold KeepsName after at ha ⊢
  rw [bind_apply]
  cases hrun : a s with
  | error v s' =>
      rw [hrun] at ha
      exact ha
  | ok x s' =>
      rw [hrun] at ha
      exact ha.trans (hf x s' hrun)

/-- Where an operation starts with a look at the client. -/
theorem keepsName_client_bind {f : Client → Act σ β} {s : Session σ}
    (hf : KeepsName (f s.client) s) : KeepsName (client >>= f) s := by
  apply keepsName_bind (keepsName_client s)
  intro c s' hrun
  cases hrun
  exact hf

theorem keepsName_ask (q : σ → Reply σ α) (s : Session σ) : KeepsName (ask q) s := by
  unfold KeepsName after
  rw [ask_apply]
  cases q s.world.source with
  | error v => exact .refl s
  | ok r => exact ⟨rfl, rfl, rfl, rfl, rfl, id, rfl⟩

theorem client_of_ask {q : σ → Reply σ α} {s s' : Session σ} {r : Except Error α}
    (hrun : ask q s = .ok r s') : s'.client = s.client := by
  rw [ask_apply] at hrun
  split at hrun
  · cases hrun
    rfl
  · cases hrun

theorem keepsName_become {p : Phase} (hp : p ≠ .created) (s : Session σ) :
    KeepsName (become p) s := by
  unfold KeepsName after
  rw [become_apply]
  cases s.client.phase.canBecome p with
  | false => exact .refl s
  | true => exact ⟨rfl, rfl, rfl, rfl, rfl, fun hcreated => absurd hcreated hp, rfl⟩

/-! ### Registration and report -/

theorem keepsName_register (h : Harness σ) (s : Session σ) : KeepsName (register h) s := by
  refine keepsName_bind (keepsName_become (by decide) s) fun _ s' _ => keepsName_client_bind ?_
  cases h.counterexample with
  | some e => exact ⟨rfl, rfl, rfl, rfl, rfl, id, rfl⟩
  | none =>
      cases h.config.communicationEnabled with
      | false => exact keepsName_pure () s'
      | true =>
          apply keepsName_bind (keepsName_ask _ s')
          intro r s'' hrun
          obtain ⟨c, w⟩ := s''
          obtain rfl : c = s'.client := client_of_ask hrun
          cases r with
          | error e => exact keepsName_pure () _
          | ok d => exact ⟨rfl, rfl, rfl, rfl, rfl, id, rfl⟩

/-- Every outcome is reported in a phase that is not the first. -/
theorem keepsName_report (h : Harness σ) {phase : Phase} (hphase : phase ≠ .created)
    (kind : String) (outcome : Json) (s : Session σ) :
    KeepsName (report h phase kind outcome) s := by
  refine keepsName_bind (keepsName_become hphase s) fun _ s' _ => keepsName_client_bind ?_
  split
  · exact keepsName_pure () s'
  · exact keepsName_bind (keepsName_ask _ s') fun _ s'' _ => keepsName_pure () s''

theorem keepsName_completed (h : Harness σ) (type : String) (properties : List (String × Json))
    (value : Option Json) (s : Session σ) : KeepsName (completed h type properties value) s :=
  keepsName_report h (by decide) _ _ s

theorem keepsName_replaced (h : Harness σ) (type : String) (value : Json) (s : Session σ) :
    KeepsName (replaced h type value) s :=
  keepsName_report h (by decide) _ _ s

theorem keepsName_mutated (h : Harness σ) (kind : TransformerKind) (value next : Json)
    (hasNext : Bool) (s : Session σ) : KeepsName (mutated h kind value next hasNext) s :=
  keepsName_report h (by decide) _ _ s

theorem keepsName_failed (h : Harness σ) (name : String) (cause : Option String)
    (details : List (String × Json)) (s : Session σ) :
    KeepsName (failed h name cause details) s :=
  keepsName_client_bind (keepsName_report h (by decide) _ _ s)

theorem keepsName_raise (h : Harness σ) (s : Session σ) : KeepsName (raise h) s := by
  refine keepsName_client_bind ?_
  cases s.client.exception? with
  | none => exact keepsName_pure none s
  | some e =>
      dsimp only
      cases Injection.ofForced e with
      | error v => exact keepsName_throw v s
      | ok i =>
          exact keepsName_bind (keepsName_failed h _ _ _ s) fun _ s' _ =>
            keepsName_pure (some i) s'

theorem keepsName_transform (h : Harness σ) (reference : Json) (s : Session σ) :
    KeepsName (transform h reference) s := by
  refine keepsName_client_bind ?_
  cases s.client.transformer? with
  | none => exact keepsName_pure _ s
  | some f =>
      dsimp only
      rcases mutation h.registry f reference with e | ⟨acc, m⟩
      · exact keepsName_pure _ s
      · have hmutated : ∀ next s', KeepsName (do
            mutated h f.transformer m.result next m.hasNext
            return .ok (some m.result) : Act σ (Except Error (Option Json))) s' :=
          fun next s' => keepsName_bind (keepsName_mutated h _ _ _ _ s') fun _ s'' _ =>
            keepsName_pure _ s''
        dsimp only
        split
        · cases m.next with
          | error v => exact keepsName_throw v s
          | ok next => exact hmutated next s
        · exact hmutated acc s

end Client

end Faultline
