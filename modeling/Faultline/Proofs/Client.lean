import Faultline.Client
import Mathlib

/-!
# What a client does to its world

One equation for each operation of a client before its call is made.  An operation reads and
writes the state of its world only at the pair of the calling service and the request:
`Client.arrive` and `Client.nameIn` say how, so that no later proof opens the operations.
-/

namespace Faultline

variable {σ : Type}

theorem Phase.canBecome_prepared_iff (p : Phase) :
    p.canBecome .prepared = true ↔ p = .created := by
  cases p <;> decide

theorem Phase.canBecome_beforeInvoked {p : Phase} (h : p.canBecome .beforeInvoked = true) :
    p = .prepared := by
  revert h
  cases p <;> decide

/-- Only a registered call has an outcome. -/
theorem Phase.canBecome_terminal {p q : Phase} (hq : q.isTerminal = true)
    (h : p.canBecome q = true) : p = .beforeInvoked := by
  revert hq h
  cases p <;> cases q <;> decide

/-- Whether the execution is new to a service, with the world after the question. -/
def Harness.greeting (h : Harness σ) (service : String) (w : World σ) :
    Except Violation (Bool × World σ) :=
  if h.consults then
    match h.source.isNew service w.source with
    | .ok (.ok b, source) => .ok (b, { w with source })
    | .ok (.error _, source) => .ok (false, { w with source })
    | .error v => .error v
  else .ok (false, w)

/-- A question leaves the state alone. -/
theorem Harness.state_of_greeting {h : Harness σ} {service : String} {w w' : World σ} {b : Bool}
    (hgreet : h.greeting service w = .ok (b, w')) : w'.state = w.state := by
  unfold greeting at hgreet
  split at hgreet
  · split at hgreet
    all_goals cases hgreet
    all_goals rfl
  · cases hgreet
    rfl

/-- A service that the execution is new to starts over. -/
def State.startOver (s : State) (first : Bool) (service : String) : State :=
  if first then s.clearService service else s

namespace State

@[simp] theorem clock?_clearService (s : State) (service service' request : String) :
    (s.clearService service).clock? service' request =
      if service' = service then none else s.clock? service' request :=
  PerRequest.find?_erase s.clocks service service' request

@[simp] theorem index?_clearService (s : State) (service service' request : String) :
    (s.clearService service).index? service' request =
      if service' = service then none else s.index? service' request :=
  PerRequest.find?_erase s.indexes service service' request

end State

namespace Client

/-- The request's slot is filled and its clock ticked. -/
def arrive (c : Client) (s : State) : Clock × State :=
  (s.updateSlot c.callsite.service c.requestId fun slot =>
    ((), some (slot.getD c.incomingIndex))).2.updateClock c.callsite.service c.requestId
      fun stored => (c.tickFrom stored, c.tickFrom stored)

/-- The call is named in the slot of its request. -/
def nameIn (h : Harness σ) (c : Client) (s : State) : Except Violation Index × State :=
  s.updateIndex c.callsite.service c.requestId (c.nameFrom h)

/-! ### The entries that a client touches -/

@[simp] theorem arrive_fst (c : Client) (s : State) :
    (c.arrive s).1 = c.tickFrom ((s.clock? c.callsite.service c.requestId).getD .empty) := rfl

@[simp] theorem clock?_arrive (c : Client) (s : State) (service request : String) :
    (c.arrive s).2.clock? service request =
      if service = c.callsite.service ∧ request = c.requestId
      then some (c.tickFrom ((s.clock? c.callsite.service c.requestId).getD .empty))
      else s.clock? service request :=
  State.clock?_updateClock _ _ _ _ _ _

@[simp] theorem index?_arrive (c : Client) (s : State) (service request : String) :
    (c.arrive s).2.index? service request =
      if service = c.callsite.service ∧ request = c.requestId
      then some ((s.index? c.callsite.service c.requestId).getD c.incomingIndex)
      else s.index? service request :=
  State.index?_updateSlot s c.callsite.service c.requestId service request fun slot =>
    ((), some (slot.getD c.incomingIndex))

@[simp] theorem nameIn_fst (h : Harness σ) (c : Client) (s : State) :
    (c.nameIn h s).1 =
      (c.nameFrom h ((s.index? c.callsite.service c.requestId).getD .empty)).1 := rfl

@[simp] theorem clock?_nameIn (h : Harness σ) (c : Client) (s : State) (service request : String) :
    (c.nameIn h s).2.clock? service request = s.clock? service request := rfl

@[simp] theorem index?_nameIn (h : Harness σ) (c : Client) (s : State) (service request : String) :
    (c.nameIn h s).2.index? service request =
      if service = c.callsite.service ∧ request = c.requestId
      then some (c.nameFrom h ((s.index? c.callsite.service c.requestId).getD .empty)).2
      else s.index? service request :=
  State.index?_updateIndex s _ _ service request _

/-! ### The operations of the monad -/

variable {α β : Type}

@[simp] theorem bind_apply (a : Act σ α) (f : α → Act σ β) (s : Session σ) :
    (a >>= f) s = match a s with
      | .ok x s => f x s
      | .error v s => .error v s := by
  simp only [bind, EStateM.bind]
  cases a s <;> rfl

@[simp] theorem pure_apply (x : α) (s : Session σ) : (pure x : Act σ α) s = .ok x s := rfl

@[simp] theorem throw_apply (v : Violation) (s : Session σ) :
    (throw v : Act σ α) s = .error v s := rfl

@[simp] theorem client_apply (s : Session σ) : client s = .ok s.client s := rfl

@[simp] theorem setClient_apply (c : Client) (s : Session σ) :
    setClient c s = .ok () ⟨c, s.world⟩ := rfl

@[simp] theorem onState_apply (f : State → α × State) (s : Session σ) :
    onState f s =
      .ok (f s.world.state).1 ⟨s.client, { s.world with state := (f s.world.state).2 }⟩ :=
  rfl

theorem ask_apply (q : σ → Reply σ α) (s : Session σ) :
    ask q s = match q s.world.source with
      | .ok (r, source) => .ok r ⟨s.client, { s.world with source }⟩
      | .error v => .error v s := by
  unfold ask
  simp only [bind, EStateM.bind, get, getThe, MonadStateOf.get, EStateM.get]
  cases q s.world.source <;> rfl

theorem become_apply (p : Phase) (s : Session σ) :
    become p s = if s.client.phase.canBecome p then .ok () ⟨{ s.client with phase := p }, s.world⟩
      else .error (.invalidTransition s.client.phase p) s := by
  simp only [become, bind_apply, client_apply]
  split <;> rfl

/-! ### The operations of a client -/

theorem advance_eq (h : Harness σ) (s : Session σ) :
    advance h s = match s.client.nameIn h s.world.state with
      | (.ok named, state) => .ok () ⟨{ s.client with index := named }, { s.world with state }⟩
      | (.error v, state) => .error v ⟨s.client, { s.world with state }⟩ := by
  simp only [advance, bind_apply, client_apply, onState_apply]
  rcases hname : s.client.nameIn h s.world.state with ⟨r, state⟩
  rw [nameIn] at hname
  cases r <;> simp [hname]

theorem isFirst_eq (h : Harness σ) (s : Session σ) :
    isFirst h s = match h.greeting s.client.callsite.service s.world with
      | .ok (first, w) => .ok first ⟨s.client, w⟩
      | .error v => .error v s := by
  unfold isFirst Harness.greeting
  cases h.consults with
  | false => rfl
  | true =>
      simp only [Bool.not_true, Bool.false_eq_true, if_false, if_true, bind_apply, client_apply,
        ask_apply]
      rcases h.source.isNew s.client.callsite.service s.world.source with v | ⟨r, source⟩
      · rfl
      · cases r <;> rfl

theorem prepare_of_not_created (h : Harness σ) {s : Session σ}
    (hs : s.client.phase.canBecome .prepared = false) :
    prepare h s = .error (.invalidTransition s.client.phase .prepared) s := by
  simp [prepare, become_apply, hs]

theorem prepare_of_created (h : Harness σ) {s : Session σ}
    (hs : s.client.phase.canBecome .prepared = true) :
    prepare h s = match h.greeting s.client.callsite.service s.world with
      | .ok (first, w) =>
        let a := s.client.arrive (w.state.startOver first s.client.callsite.service)
        advance h ⟨{ s.client with phase := .prepared, clock := a.1 }, { w with state := a.2 }⟩
      | .error v => .error v ⟨{ s.client with phase := .prepared }, s.world⟩ := by
  simp only [prepare, bind_apply, become_apply, hs, if_true, client_apply, isFirst_eq]
  rcases h.greeting s.client.callsite.service s.world with v | ⟨first, w⟩
  · rfl
  · cases first <;> rfl

theorem updateCallsite_eq (h : Harness σ) (callsite : Callsite) (s : Session σ) :
    updateCallsite h callsite s = if s.client.phase = .prepared
      then advance h ⟨{ s.client with callsite }, s.world⟩ else .error .lateCallsite s := by
  simp only [updateCallsite, bind_apply, client_apply]
  by_cases hs : s.client.phase = .prepared <;> simp [hs]

theorem register_of_not_prepared (h : Harness σ) {s : Session σ}
    (hs : s.client.phase.canBecome .beforeInvoked = false) :
    register h s = .error (.invalidTransition s.client.phase .beforeInvoked) s := by
  simp [register, become_apply, hs]

/-- A replay decides by itself. -/
theorem register_of_replay {h : Harness σ} {e : Counterexample} (he : h.counterexample = some e)
    {s : Session σ} (hs : s.client.phase.canBecome .beforeInvoked = true) :
    register h s = .ok () ⟨{ s.client with
      phase := .beforeInvoked
      fault := (e.fault s.client.index.text).toOption.join }, s.world⟩ := by
  simp only [register, bind_apply, become_apply, hs, if_true, client_apply, he, setClient_apply]
  cases e.fault s.client.index.text <;> rfl

/-- A harness that asks takes the decision of its source. -/
theorem register_of_consults {h : Harness σ} (hconsults : h.consults = true) {s : Session σ}
    (hs : s.client.phase.canBecome .beforeInvoked = true) :
    register h s = match h.source.register s.client.invocationRecord s.world.source with
      | .ok (.ok d, source) => .ok () ⟨{ s.client with
          phase := .beforeInvoked, generatedId := d.generatedId, fault := d.fault },
          { s.world with source }⟩
      | .ok (.error _, source) => .ok () ⟨{ s.client with phase := .beforeInvoked },
          { s.world with source }⟩
      | .error v => .error v ⟨{ s.client with phase := .beforeInvoked }, s.world⟩ := by
  have henabled : h.config.communicationEnabled = true := (Bool.and_eq_true_iff.1 hconsults).1
  have hnone : h.counterexample = none :=
    Option.isNone_iff_eq_none.1 (Bool.and_eq_true_iff.1 hconsults).2
  simp only [register, bind_apply, become_apply, hs, if_true, client_apply, hnone, henabled,
    ask_apply]
  have hrecord : ({ s.client with phase := .beforeInvoked } : Client).invocationRecord =
      s.client.invocationRecord := rfl
  rw [hrecord]
  rcases h.source.register s.client.invocationRecord s.world.source with v | ⟨r, source⟩
  · rfl
  · cases r <;> rfl

/-- Where nobody is asked and nothing is replayed, nothing is decided. -/
theorem register_of_silent {h : Harness σ} (hsilent : h.config.communicationEnabled = false)
    (hnone : h.counterexample = none) {s : Session σ}
    (hs : s.client.phase.canBecome .beforeInvoked = true) :
    register h s = .ok () ⟨{ s.client with phase := .beforeInvoked }, s.world⟩ := by
  simp only [register, bind_apply, become_apply, hs, if_true, client_apply, hnone, hsilent]
  rfl

/-- Where the source is not asked, the call gets no id. -/
theorem exists_register_of_not_consults {h : Harness σ} (hconsults : h.consults = false)
    {s : Session σ} (hs : s.client.phase.canBecome .beforeInvoked = true) :
    ∃ fault, register h s =
      .ok () ⟨{ s.client with phase := .beforeInvoked, fault }, s.world⟩ := by
  cases hreplay : h.counterexample with
  | some e => exact ⟨_, register_of_replay hreplay hs⟩
  | none =>
      have hsilent : h.config.communicationEnabled = false := by
        simpa [Harness.consults, hreplay] using hconsults
      exact ⟨_, register_of_silent hsilent hreplay hs⟩

theorem report_of_not_registered (h : Harness σ) {phase : Phase} (kind : String) (outcome : Json)
    {s : Session σ} (hs : s.client.phase.canBecome phase = false) :
    report h phase kind outcome s = .error (.invalidTransition s.client.phase phase) s := by
  simp [report, become_apply, hs]

/-- Where nobody is asked, or the call has no id, the outcome is not passed on. -/
theorem report_of_silent {h : Harness σ} {phase : Phase} (kind : String) (outcome : Json)
    {s : Session σ} (hs : s.client.phase.canBecome phase = true)
    (hsilent : s.client.generatedId < 0 ∨ h.consults = false) :
    report h phase kind outcome s = .ok () ⟨{ s.client with phase }, s.world⟩ := by
  simp only [report, bind_apply, become_apply, hs, if_true, client_apply]
  rcases hsilent with hid | hconsults
  · simp [hid]
  · simp [hconsults]

/-- The source is told of the outcome of a call that it gave an id. -/
theorem report_of_consults {h : Harness σ} (hconsults : h.consults = true) {phase : Phase}
    (kind : String) (outcome : Json) {s : Session σ} (hs : s.client.phase.canBecome phase = true)
    (hid : ¬ s.client.generatedId < 0) : report h phase kind outcome s =
      match h.source.report (s.client.completionRecord kind outcome) false s.world.source with
      | .ok (_, source) => .ok () ⟨{ s.client with phase }, { s.world with source }⟩
      | .error v => .error v ⟨{ s.client with phase }, s.world⟩ := by
  have hrecord : ({ s.client with phase } : Client).completionRecord kind outcome =
      s.client.completionRecord kind outcome := rfl
  simp only [report, bind_apply, become_apply, hs, if_true, client_apply, hid, decide_false,
    hconsults, Bool.not_true, Bool.or_false, Bool.false_eq_true, if_false, ask_apply]
  rw [hrecord]
  cases h.source.report (s.client.completionRecord kind outcome) false s.world.source <;> rfl

end Client

end Faultline
