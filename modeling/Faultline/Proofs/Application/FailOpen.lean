import Faultline.Proofs.Application.Basic
import Faultline.Proofs.Server
import Faultline.Source.Remote

/-!
# Failing open

A source that answers every question with an error is as good as one that is not asked: the same
operations leave behind the same state, storages, clients and servers and give back the same, and
no client gets an id or a fault.  Two operations are compared by what they give back and leave
behind, the sources apart (`Agree`).
-/

namespace Faultline

variable {σ τ : Type}

/-- Every question comes back with an error. -/
structure Source.Fails (s : Source σ) : Prop where
  isNew : ∀ service x, ∃ e x', s.isNew service x = .ok (.error e, x')
  register : ∀ record x, ∃ e x', s.register record x = .ok (.error e, x')
  report : ∀ record update x, ∃ e x', s.report record update x = .ok (.error e, x')

/-- A control plane that cannot be reached fails. -/
theorem Source.fails_remote (base : String) : (remote base (.unreachable : Channel σ)).Fails where
  isNew _ x := ⟨_, x, rfl⟩
  register _ x := ⟨_, x, rfl⟩
  report _ _ x := ⟨_, x, rfl⟩

/-- The harness with communication off, whatever the source then is. -/
def Harness.silenced (h : Harness σ) (source : Source τ) : Harness τ :=
  ⟨{ h.config with communicationEnabled := false }, source, h.counterexample, h.registry⟩

/-- The harness replays nothing, and its source fails. -/
structure Harness.FailsOpen (h : Harness σ) : Prop where
  source : h.source.Fails
  counterexample : h.counterexample = none

def Session.withSource (s : Session σ) (y : τ) : Session τ := ⟨s.client, ⟨s.world.state, y⟩⟩

/-- Nothing was decided about the call. -/
def Client.Undecided (c : Client) : Prop := c.fault = none ∧ c.generatedId = -1

/-! ### Questions -/

section

variable {h : Harness σ} (hh : h.FailsOpen) (source : Source τ) (y : τ)
include hh

theorem Harness.FailsOpen.exists_greeting (service : String) (w : World σ) :
    ∃ x, h.greeting service w = .ok (false, { w with source := x }) := by
  unfold greeting
  split
  · obtain ⟨e, x, hask⟩ := hh.source.isNew service w.source
    exact ⟨x, by rw [hask]⟩
  · exact ⟨w.source, rfl⟩

theorem Harness.FailsOpen.exists_register {s : Session σ}
    (hs : s.client.phase.canBecome .beforeInvoked = true) :
    ∃ x, Client.register h s =
      .ok () ⟨{ s.client with phase := .beforeInvoked }, { s.world with source := x }⟩ := by
  cases henabled : h.config.communicationEnabled with
  | false => exact ⟨s.world.source, Client.register_of_silent henabled hh.counterexample hs⟩
  | true =>
      have hconsults : h.consults = true := by simp [Harness.consults, henabled, hh.counterexample]
      obtain ⟨e, x, hask⟩ := hh.source.register s.client.invocationRecord s.world.source
      refine ⟨x, ?_⟩
      rw [Client.register_of_consults hconsults hs, hask]

/-- A call is received as it came. -/
theorem Harness.FailsOpen.exists_receive (r : Reception σ) :
    ∃ x, Server.receive h r =
      .ok () ⟨r.server, r.server.store r.storage, { r.world with source := x }⟩ := by
  rw [Server.receive_eq]
  cases r.server.context.index with
  | none => exact ⟨r.world.source, rfl⟩
  | some text =>
      cases h.consults with
      | false => exact ⟨r.world.source, rfl⟩
      | true =>
          obtain ⟨e, x, hask⟩ := hh.source.report (r.server.arrivalRecord text) false r.world.source
          exact ⟨x, by simp only [if_true, hask]⟩

end

namespace Harness

variable (h : Harness σ) (source : Source τ)

theorem greeting_silenced (service : String) (w : World τ) :
    (h.silenced source).greeting service w = .ok (false, w) := rfl

theorem receive_silenced (r : Reception τ) : Server.receive (h.silenced source) r =
    .ok () ⟨r.server, r.server.store r.storage, r.world⟩ := by
  rw [Server.receive_eq]
  cases r.server.context.index <;> rfl

end Harness

/-! ### Operations -/

/-- Two operations give back and leave behind the same, the sources apart. -/
structure Agree {α : Type} (y : τ) (a : Client.Act σ α) (a' : Client.Act τ α) (s : Session σ) :
    Prop where
  given : given a' (s.withSource y) = given a s
  after : after a' (s.withSource y) = (after a s).withSource y

namespace Agree

variable {α β : Type} {y : τ} {a : Client.Act σ α} {a' : Client.Act τ α} {s : Session σ}

theorem of_ok {x : α} {s₁ : Session σ} (ha : a s = .ok x s₁)
    (ha' : a' (s.withSource y) = .ok x (s₁.withSource y)) : Agree y a a' s := by
  constructor
  · rw [Faultline.given, Faultline.given, ha, ha']
  · rw [after_of_ok ha, after_of_ok ha']

theorem of_error {v : Violation} {s₁ : Session σ} (ha : a s = .error v s₁)
    (ha' : a' (s.withSource y) = .error v (s₁.withSource y)) : Agree y a a' s := by
  constructor
  · rw [Faultline.given, Faultline.given, ha, ha']
  · rw [after_of_error ha, after_of_error ha']

/-- What is handed on is the same. -/
theorem bind_pure (ha : Agree y a a' s) (f : α → β) :
    Agree y (do return f (← a)) (do return f (← a')) s := by
  refine ⟨?_, ?_⟩
  · have hgiven := ha.given
    unfold Faultline.given at hgiven ⊢
    rw [Client.bind_apply, Client.bind_apply]
    cases hrun : a s <;> cases hrun' : a' (s.withSource y) <;> simp_all
  · rw [Client.after_bind_pure, Client.after_bind_pure, ha.after]

end Agree

namespace Client

variable {h : Harness σ} (source : Source τ) (y : τ)

theorem agree_advance (s : Session σ) : Agree y (advance h) (advance (h.silenced source)) s := by
  have hsame : (s.withSource y).client.nameIn (h.silenced source) (s.withSource y).world.state =
      s.client.nameIn h s.world.state := rfl
  have hadvance := advance_eq h s
  have hadvance' := advance_eq (h.silenced source) (s.withSource y)
  rw [hsame] at hadvance'
  rcases hname : s.client.nameIn h s.world.state with ⟨v | named, state⟩ <;>
    rw [hname] at hadvance hadvance'
  · exact .of_error hadvance hadvance'
  · exact .of_ok hadvance hadvance'

theorem agree_updateCallsite (callsite : Callsite) (s : Session σ) :
    Agree y (updateCallsite h callsite) (updateCallsite (h.silenced source) callsite) s := by
  have hupdate := updateCallsite_eq h callsite s
  have hupdate' := updateCallsite_eq (h.silenced source) callsite (s.withSource y)
  by_cases hphase : s.client.phase = .prepared
  · rw [if_pos hphase] at hupdate
    rw [if_pos (show (s.withSource y).client.phase = .prepared from hphase)] at hupdate'
    have hadvance := agree_advance (h := h) source y ⟨{ s.client with callsite }, s.world⟩
    refine ⟨?_, ?_⟩
    · rw [given, given, hupdate, hupdate']
      exact hadvance.given
    · rw [after, after, hupdate, hupdate']
      exact hadvance.after
  · rw [if_neg hphase] at hupdate
    rw [if_neg (show ¬ (s.withSource y).client.phase = .prepared from hphase)] at hupdate'
    exact .of_error hupdate hupdate'

/-- A call without an id is reported to nobody. -/
theorem agree_report {s : Session σ} (hs : s.client.Undecided) (phase : Phase) (kind : String)
    (outcome : Json) :
    Agree y (report h phase kind outcome) (report (h.silenced source) phase kind outcome) s := by
  cases hphase : s.client.phase.canBecome phase with
  | false =>
      exact .of_error (report_of_not_registered h kind outcome hphase)
        (report_of_not_registered (h.silenced source) kind outcome (s := s.withSource y) hphase)
  | true =>
      have hid : s.client.generatedId < 0 := hs.2 ▸ by decide
      exact .of_ok (report_of_silent kind outcome hphase (.inl hid))
        (report_of_silent (h := h.silenced source) (s := s.withSource y) kind outcome hphase
          (.inl hid))

theorem agree_failed {s : Session σ} (hs : s.client.Undecided) (name : String)
    (cause : Option String) (details : List (String × Json)) :
    Agree y (failed h name cause details) (failed (h.silenced source) name cause details) s := by
  have hreport := agree_report (h := h) source y hs .completedException "exception"
    (s.client.exceptionOutcome name cause details)
  exact ⟨hreport.given, hreport.after⟩

variable (hh : h.FailsOpen)
include hh

theorem agree_isFirst (s : Session σ) : Agree y (isFirst h) (isFirst (h.silenced source)) s := by
  obtain ⟨x, hgreet⟩ := hh.exists_greeting s.client.callsite.service s.world
  have hfirst := isFirst_eq h s
  rw [hgreet] at hfirst
  exact .of_ok hfirst (isFirst_eq (h.silenced source) (s.withSource y))

theorem agree_prepare (s : Session σ) : Agree y (prepare h) (prepare (h.silenced source)) s := by
  cases hphase : s.client.phase.canBecome .prepared with
  | false =>
      exact .of_error (prepare_of_not_created h hphase)
        (prepare_of_not_created (h.silenced source) (s := s.withSource y) hphase)
  | true =>
      obtain ⟨x, hgreet⟩ := hh.exists_greeting s.client.callsite.service s.world
      have hprepare := prepare_of_created h hphase
      rw [hgreet] at hprepare
      have hprepare' := prepare_of_created (h.silenced source) (s := s.withSource y) hphase
      rw [Harness.greeting_silenced] at hprepare'
      have hadvance := agree_advance (h := h) source y
        ⟨{ s.client with phase := .prepared, clock := (s.client.arrive s.world.state).1 },
          ⟨(s.client.arrive s.world.state).2, x⟩⟩
      refine ⟨?_, ?_⟩
      · rw [given, given, hprepare, hprepare']
        exact hadvance.given
      · rw [after, after, hprepare, hprepare']
        exact hadvance.after

theorem agree_register (s : Session σ) :
    Agree y (register h) (register (h.silenced source)) s := by
  cases hphase : s.client.phase.canBecome .beforeInvoked with
  | false =>
      exact .of_error (register_of_not_prepared h hphase)
        (register_of_not_prepared (h.silenced source) (s := s.withSource y) hphase)
  | true =>
      obtain ⟨x, hregister⟩ := hh.exists_register hphase
      exact .of_ok hregister (register_of_silent (h := h.silenced source) (s := s.withSource y) rfl
        hh.counterexample hphase)

end Client

namespace Operation

variable {h : Harness σ}

/-- Every operation does the same whether its questions fail or are not asked. -/
theorem agree_act (hh : h.FailsOpen) (source : Source τ) (y : τ) {s : Session σ}
    (hs : s.client.Undecided) (op : Operation) :
    Agree y (op.act h) (op.act (h.silenced source)) s := by
  cases op with
  | isFirst => exact (Client.agree_isFirst source y hh s).bind_pure Yield.first
  | prepare => exact (Client.agree_prepare source y hh s).bind_pure fun _ => Yield.done
  | updateCallsite callsite =>
      exact (Client.agree_updateCallsite source y callsite s).bind_pure fun _ => Yield.done
  | register => exact (Client.agree_register source y hh s).bind_pure fun _ => Yield.done
  | complete type properties value =>
      exact (Client.agree_report source y hs _ _ _).bind_pure fun _ => Yield.done
  | replace type value =>
      exact (Client.agree_report source y hs _ _ _).bind_pure fun _ => Yield.done
  | mutate kind value next hasNext =>
      exact (Client.agree_report source y hs _ _ _).bind_pure fun _ => Yield.done
  | fail name cause details =>
      exact (Client.agree_failed source y hs name cause details).bind_pure fun _ => Yield.done
  | raise =>
      exact (Agree.of_ok (Client.raise_of_no_fault h hs.1) (Client.raise_of_no_fault
        (h.silenced source) (s := s.withSource y) hs.1)).bind_pure Yield.raised
  | transform reference =>
      exact (Agree.of_ok (Client.transform_of_no_fault h reference hs.1)
        (Client.transform_of_no_fault (h.silenced source) reference (s := s.withSource y)
          hs.1)).bind_pure Yield.transformed

/-- No operation decides anything. -/
theorem undecided_after (hh : h.FailsOpen) {s : Session σ} (hs : s.client.Undecided)
    (op : Operation) : (after (op.act h) s).client.Undecided := by
  cases hop : op.reports with
  | true =>
      obtain ⟨phase, hclient⟩ := op.client_of_reports hop h s
      rw [hclient]
      exact hs
  | false =>
      by_cases hregister : op = .register
      · subst hregister
        rw [act, Client.after_bind_pure]
        cases hphase : s.client.phase.canBecome .beforeInvoked with
        | false =>
            rw [after_of_error (Client.register_of_not_prepared h hphase)]
            exact hs
        | true =>
            obtain ⟨x, hregister⟩ := hh.exists_register hphase
            rw [after_of_ok hregister]
            exact hs
      · rcases op.client_of_early hop hregister h s with hsame | ⟨-, callsite, clock, index, hsame⟩
        all_goals
          rw [hsame]
          exact hs

end Operation

/-! ### Applications -/

theorem Client.undecided_make (o : Opening) (id : String) : (o.client id).Undecided :=
  ⟨rfl, rfl⟩

/-- What an application sees of an undecided call. -/
theorem Client.Undecided.shows {c : Client} (hc : c.Undecided) :
    c.shouldAbort = false ∧ c.forcedSleepMs = none ∧ c.outgoing.generatedId = none ∧
      c.outgoing.forcedSleepMs = none := by
  obtain ⟨hfault, hid⟩ := hc
  refine ⟨?_, ?_, ?_, ?_⟩
  · simp [shouldAbort, hfault]
  · simp [forcedSleepMs, hfault]
  · simp [outgoing, hid]
  · simp [outgoing, exception?, hfault]

namespace Application

def withSource (a : Application σ) (y : τ) : Application τ :=
  ⟨⟨a.world.state, y⟩, a.storages, a.clients, a.servers, a.results⟩

def Undecided (a : Application σ) : Prop := ∀ c ∈ a.clients, c.Undecided

variable {h : Harness σ} {ids : Nat → String} {a : Application σ}

theorem operate_silenced (hh : h.FailsOpen) (source : Source τ) (y : τ) (ha : a.Undecided) (i : Nat)
    (op : Operation) :
    (a.withSource y).operate (h.silenced source) i op = (a.operate h i op).withSource y := by
  unfold operate withSource
  cases hc : a.clients[i]? with
  | none => rfl
  | some c =>
      have hagree := op.agree_act hh source y (s := ⟨c, a.world⟩) (ha c (List.mem_of_getElem? hc))
      have hgiven := hagree.given
      have hafter := hagree.after
      simp only [Session.withSource] at hgiven hafter
      simp only [hgiven, hafter]

theorem receive_silenced (hh : h.FailsOpen) (source : Source τ) (y : τ) (j k : Nat) :
    (a.withSource y).receive (h.silenced source) j k = (a.receive h j k).withSource y := by
  unfold receive withSource
  cases hserver : a.servers[j]? with
  | none => rfl
  | some server =>
      cases hstorage : a.storages[k]? with
      | none => rfl
      | some storage =>
          obtain ⟨x, hreceive⟩ := hh.exists_receive ⟨server, storage, a.world⟩
          have hreceive' := h.receive_silenced source ⟨server, storage, ⟨a.world.state, y⟩⟩
          simp only [after_of_ok hreceive, after_of_ok hreceive', given, hreceive, hreceive']

theorem step_silenced (hh : h.FailsOpen) (source : Source τ) (y : τ) (ha : a.Undecided) (m : Move) :
    (a.withSource y).step (h.silenced source) ids m = (a.step h ids m).withSource y := by
  cases m with
  | operate i op => exact operate_silenced hh source y ha i op
  | receive j k => exact receive_silenced hh source y j k
  | keep s => rfl
  | edit k f => rfl
  | create k callsite requestId preliminary transport =>
      simp only [step, withSource]
      cases a.storages[k]? <;> rfl
  | accept service c => rfl
  | deliver i service =>
      simp only [step, withSource]
      cases a.clients[i]? <;> rfl

theorem undecided_step (hh : h.FailsOpen) (ha : a.Undecided) (m : Move) :
    (a.step h ids m).Undecided := by
  cases m with
  | operate i op =>
      intro c hc
      simp only [step, operate] at hc
      split at hc
      · rename_i c₀ hc₀
        rcases List.mem_or_eq_of_mem_set hc with hc | rfl
        · exact ha c hc
        · exact op.undecided_after hh (ha c₀ (List.mem_of_getElem? hc₀))
      · exact ha c hc
  | create k callsite requestId preliminary transport =>
      simp only [step]
      split
      · intro c hc
        rcases List.mem_append.1 hc with hc | hc
        · exact ha c hc
        · exact List.mem_singleton.1 hc ▸ Client.undecided_make _ _
      · exact ha
  | keep s => exact ha
  | edit k f => exact ha
  | accept service c => exact ha
  | deliver i service =>
      simp only [step]
      split <;> exact ha
  | receive j k =>
      simp only [step, receive]
      split <;> exact ha

theorem run_silenced (hh : h.FailsOpen) (source : Source τ) (y : τ) (ha : a.Undecided)
    (moves : List Move) :
    (a.withSource y).run (h.silenced source) ids moves = (a.run h ids moves).withSource y ∧
      (a.run h ids moves).Undecided := by
  induction moves generalizing a with
  | nil => exact ⟨rfl, ha⟩
  | cons m moves ih =>
      simp only [run, List.foldl_cons] at ih ⊢
      rw [step_silenced hh source y ha m]
      exact ih (undecided_step hh ha m)

/-- Where nothing is replayed and every question fails, everything that an application sees is as
if communication were off: the same operations leave the same state, storages, clients and servers
and give back the same, and no client has an id or a fault. -/
theorem fails_open {h : Harness σ} (hfails : h.source.Fails) (hnone : h.counterexample = none)
    (source : Source τ) (ids : Nat → String) (s : State) (x : σ) (y : τ) (moves : List Move) :
    let asked := (start ⟨s, x⟩).run h ids moves
    (start ⟨s, y⟩).run (h.silenced source) ids moves = asked.withSource y ∧
      ∀ c ∈ asked.clients, c.fault = none ∧ c.generatedId = -1 ∧ c.shouldAbort = false ∧
        c.forcedSleepMs = none ∧ c.outgoing.generatedId = none ∧
        c.outgoing.forcedSleepMs = none := by
  intro asked
  have hstart : (start ⟨s, x⟩ : Application σ).Undecided := fun c hc => by cases hc
  obtain ⟨hsame, hundecided⟩ : ((start ⟨s, x⟩).withSource y).run (h.silenced source) ids moves =
      asked.withSource y ∧ asked.Undecided :=
    run_silenced ⟨hfails, hnone⟩ source y hstart moves
  refine ⟨hsame, fun c hc => ?_⟩
  obtain ⟨hfault, hid⟩ := hundecided c hc
  exact ⟨hfault, hid, (hundecided c hc).shows⟩

/-- A harness over a control plane that cannot be reached. -/
def unreachableHarness : Harness Unit := .plain (.remote "http://localhost:5005/" .unreachable)

/-- A call that is made, served and completed. -/
def servedCall : List Move :=
  [.keep ⟨{ requestId := some "r" }⟩,
    .create 0 ⟨"a", "b", "m", .empty, "f", 1, ""⟩ none none none, .operate 0 .prepare,
    .operate 0 .register, .deliver 0 "b", .keep .empty, .receive 0 1,
    .operate 0 (.complete "Reply" [] none)]

theorem fails_open_unreachable :
    unreachableHarness.source.Fails ∧ unreachableHarness.counterexample = none ∧
      (start ⟨.empty, ()⟩).run (unreachableHarness.silenced (.remote "" .unreachable)) toString
          servedCall =
        ((start ⟨.empty, ()⟩).run unreachableHarness toString servedCall).withSource () ∧
      ((start ⟨.empty, ()⟩).run unreachableHarness toString servedCall).clients.map (·.phase) =
        [.completedOk] := by
  have hfails : unreachableHarness.source.Fails := Source.fails_remote _
  refine ⟨hfails, rfl, ?_, ?_⟩
  · exact (fails_open hfails rfl _ toString .empty () () servedCall).1
  · cbv

end Application

end Faultline
