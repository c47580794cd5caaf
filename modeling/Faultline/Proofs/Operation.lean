import Faultline.Proofs.Frame

/-!
# The operations of a client

What an application can ask of a client, with what it gets back.  An operation gives the call a
name, registers it, or reports an outcome; `exists_report` says that every operation of the third
kind comes to one report or to nothing, whatever the source answers.
-/

namespace Faultline

/-- What an application asks of a client. -/
inductive Operation where
  /-- Whether the execution is new to the calling service. -/
  | isFirst
  | prepare
  | updateCallsite (callsite : Callsite)
  | register
  | complete (type : String) (properties : List (String × Json)) (value : Option Json)
  | replace (type : String) (value : Json)
  | mutate (kind : TransformerKind) (value next : Json) (hasNext : Bool)
  | fail (name : String) (cause : Option String) (details : List (String × Json))
  | raise
  | transform (reference : Json)

/-- What an operation gives back. -/
inductive Yield where
  | done
  | first (b : Bool)
  | raised (i : Option Injection)
  | transformed (r : Except Error (Option Json))

namespace Operation

variable {σ : Type}

def act (h : Harness σ) : Operation → Client.Act σ Yield
  | isFirst => do return .first (← Client.isFirst h)
  | prepare => do
    Client.prepare h
    return .done
  | updateCallsite callsite => do
    Client.updateCallsite h callsite
    return .done
  | register => do
    Client.register h
    return .done
  | complete type properties value => do
    Client.completed h type properties value
    return .done
  | replace type value => do
    Client.replaced h type value
    return .done
  | mutate kind value next hasNext => do
    Client.mutated h kind value next hasNext
    return .done
  | fail name cause details => do
    Client.failed h name cause details
    return .done
  | raise => do return .raised (← Client.raise h)
  | transform reference => do return .transformed (← Client.transform h reference)

/-- The operations that report an outcome. -/
def reports : Operation → Bool
  | isFirst | prepare | updateCallsite _ | register => false
  | _ => true

end Operation

/-- What an operation gives back, be it done or broken off. -/
def given {τ α : Type} (a : EStateM Violation τ α) (s : τ) : Except Violation α :=
  match a s with
  | .ok x _ => .ok x
  | .error v _ => .error v

theorem after_of_ok {τ α : Type} {a : EStateM Violation τ α} {s s' : τ} {x : α}
    (h : a s = .ok x s') : after a s = s' := by
  rw [after, h]

theorem after_of_error {τ α : Type} {a : EStateM Violation τ α} {s s' : τ} {v : Violation}
    (h : a s = .error v s') : after a s = s' := by
  rw [after, h]

namespace Client

section

variable {σ : Type}

/-- The result of an operation is handed on. -/
theorem after_bind_pure {α β : Type} (a : Act σ α) (f : α → β) (s : Session σ) :
    after (do return f (← a)) s = after a s := by
  unfold after
  rw [bind_apply]
  cases a s <;> rfl

/-- Where an operation starts with a look at the client. -/
theorem after_client_bind {α : Type} (f : Client → Act σ α) (c : Client) (w : World σ) :
    after (client >>= f) ⟨c, w⟩ = after (f c) ⟨c, w⟩ := rfl

theorem exists_after_advance (h : Harness σ) (s : Session σ) :
    ∃ index state, after (advance h) s = ⟨{ s.client with index }, { s.world with state }⟩ := by
  unfold after
  rw [advance_eq]
  rcases s.client.nameIn h s.world.state with ⟨_ | _, _⟩ <;> exact ⟨_, _, rfl⟩

theorem after_isFirst (h : Harness σ) (s : Session σ) : after (isFirst h) s =
    match h.greeting s.client.callsite.service s.world with
    | .ok (_, w) => ⟨s.client, w⟩
    | .error _ => s := by
  rw [after, isFirst_eq]
  cases h.greeting s.client.callsite.service s.world <;> rfl

theorem keepsName_isFirst (h : Harness σ) (s : Session σ) : KeepsName (isFirst h) s := by
  unfold KeepsName
  rw [after_isFirst]
  split
  · rename_i hgreet
    exact ⟨rfl, rfl, rfl, rfl, rfl, id, Harness.state_of_greeting hgreet⟩
  · exact .refl s

theorem after_prepare (h : Harness σ) (s : Session σ) : after (prepare h) s =
    if s.client.phase.canBecome .prepared then
      match h.greeting s.client.callsite.service s.world with
      | .ok (first, w) =>
        let a := s.client.arrive (w.state.startOver first s.client.callsite.service)
        after (advance h)
          ⟨{ s.client with phase := .prepared, clock := a.1 }, { w with state := a.2 }⟩
      | .error _ => ⟨{ s.client with phase := .prepared }, s.world⟩
    else s := by
  cases hphase : s.client.phase.canBecome .prepared with
  | false =>
      rw [after, prepare_of_not_created h hphase]
      rfl
  | true =>
      rw [after, prepare_of_created h hphase]
      cases h.greeting s.client.callsite.service s.world <;> rfl

/-- A preparation gives a new call a clock and an index. -/
theorem exists_after_prepare (h : Harness σ) (s : Session σ) :
    after (prepare h) s = s ∨ s.client.phase = .created ∧ ∃ clock index w,
      after (prepare h) s = ⟨{ s.client with phase := .prepared, clock, index }, w⟩ := by
  rw [after_prepare]
  cases hphase : s.client.phase.canBecome .prepared with
  | false => exact .inl rfl
  | true =>
      refine .inr ⟨(Phase.canBecome_prepared_iff _).1 hphase, ?_⟩
      cases h.greeting s.client.callsite.service s.world with
      | error v => exact ⟨_, _, _, rfl⟩
      | ok r =>
          obtain ⟨index, state, hadvance⟩ := exists_after_advance h _
          exact ⟨_, _, _, hadvance⟩

/-- It asks the source for no more than a greeting. -/
theorem source_prepare (h : Harness σ) (s : Session σ) :
    (after (prepare h) s).world.source = s.world.source ∨ ∃ first w,
      h.greeting s.client.callsite.service s.world = .ok (first, w) ∧
        (after (prepare h) s).world.source = w.source := by
  rw [after_prepare]
  split
  · cases hgreet : h.greeting s.client.callsite.service s.world with
    | error v => exact .inl rfl
    | ok r =>
        obtain ⟨index, state, hadvance⟩ := exists_after_advance h _
        exact .inr ⟨r.1, r.2, rfl, congrArg (·.world.source) hadvance⟩
  · exact .inl rfl

/-- A correction leaves the phase alone, and does nothing unless the call is prepared. -/
theorem exists_after_updateCallsite (h : Harness σ) (callsite : Callsite) (s : Session σ) :
    after (updateCallsite h callsite) s = s ∨ s.client.phase = .prepared ∧
      ∃ index state, after (updateCallsite h callsite) s =
        ⟨{ s.client with callsite, index }, { s.world with state }⟩ := by
  by_cases hphase : s.client.phase = .prepared
  · obtain ⟨index, state, hadvance⟩ := exists_after_advance h ⟨{ s.client with callsite }, s.world⟩
    refine .inr ⟨hphase, index, state, ?_⟩
    rw [after, updateCallsite_eq, if_pos hphase]
    exact hadvance
  · refine .inl ?_
    rw [after, updateCallsite_eq, if_neg hphase]

theorem exists_client_of_report (h : Harness σ) (phase : Phase) (kind : String) (outcome : Json)
    (s : Session σ) :
    ∃ phase', (after (report h phase kind outcome) s).client =
      { s.client with phase := phase' } := by
  cases hphase : s.client.phase.canBecome phase with
  | false =>
      rw [after_of_error (report_of_not_registered h kind outcome hphase)]
      exact ⟨_, rfl⟩
  | true =>
      refine ⟨phase, ?_⟩
      by_cases hsilent : s.client.generatedId < 0 ∨ h.consults = false
      · rw [after_of_ok (report_of_silent kind outcome hphase hsilent)]
      · obtain ⟨hid, hconsults⟩ := not_or.1 hsilent
        rw [after, report_of_consults (Bool.not_eq_false _ ▸ hconsults) kind outcome hphase hid]
        cases h.source.report _ false s.world.source <;> rfl

/-- Without a fault nothing is raised. -/
theorem raise_of_no_fault (h : Harness σ) {s : Session σ} (hs : s.client.fault = none) :
    raise h s = .ok none s := by
  simp [raise, exception?, hs]

/-- Without a fault a response is left alone. -/
theorem transform_of_no_fault (h : Harness σ) (reference : Json) {s : Session σ}
    (hs : s.client.fault = none) : transform h reference s = .ok (.ok none) s := by
  simp [transform, transformer?, hs]

/-- What is reported of an exception. -/
def exceptionOutcome (c : Client) (name : String) (cause : Option String)
    (details : List (String × Json)) : Json :=
  .object [("name", .str name), ("metadata", .object (c.forcedDetails ++
    (cause.map fun s => ("cause", .str s)).toList ++ details.filter fun d => !d.2.isNull))]

theorem failed_eq (h : Harness σ) (name : String) (cause : Option String)
    (details : List (String × Json)) (s : Session σ) : failed h name cause details s =
      report h .completedException "exception" (s.client.exceptionOutcome name cause details) s :=
  rfl

end

/-- The kinds under which outcomes are reported. -/
def outcomeKinds : List String :=
  ["exception", "byzantine_fault", "transformer_fault", "return_value"]

/-- What is left of a client comes to one report, the same one for every source, or to nothing. -/
def ReportsOnce (c : Client) (r : Registry)
    (left : ∀ {σ : Type}, Harness σ → World σ → Session σ) : Prop :=
  (∀ (σ : Type) (h : Harness σ) (w : World σ), h.registry = r → left h w = ⟨c, w⟩) ∨
    ∃ phase kind outcome, phase.isTerminal = true ∧ kind ∈ outcomeKinds ∧
      ∀ (σ : Type) (h : Harness σ) (w : World σ), h.registry = r →
        left h w = after (report h phase kind outcome) ⟨c, w⟩

variable {c : Client} {r : Registry}

theorem reportsOnce_report {phase : Phase} (hphase : phase.isTerminal = true) {kind : String}
    (hkind : kind ∈ outcomeKinds) (outcome : Json) :
    ReportsOnce c r fun h w => after (report h phase kind outcome) ⟨c, w⟩ :=
  .inr ⟨phase, kind, outcome, hphase, hkind, fun _ _ _ _ => rfl⟩

theorem reportsOnce_failed (name : String) (cause : Option String)
    (details : List (String × Json)) :
    ReportsOnce c r fun h w => after (failed h name cause details) ⟨c, w⟩ := by
  have houtcome : ReportsOnce c r fun h w => after (report h .completedException "exception"
      (c.exceptionOutcome name cause details)) ⟨c, w⟩ :=
    reportsOnce_report rfl (by simp [outcomeKinds]) _
  unfold after at houtcome ⊢
  simp only [failed_eq]
  exact houtcome

theorem ReportsOnce.bind_pure {α β : Type} {act : ∀ {σ : Type}, Harness σ → Act σ α}
    (hact : ReportsOnce c r fun h w => after (act h) ⟨c, w⟩) (f : α → β) :
    ReportsOnce c r fun h w => after (do return f (← act h)) ⟨c, w⟩ := by
  simp only [after_bind_pure]
  exact hact

/-- A forced exception is reported, unless it cannot be raised. -/
theorem reportsOnce_raise : ReportsOnce c r fun h w => after (raise h) ⟨c, w⟩ := by
  simp only [raise, after_client_bind]
  cases c.exception? with
  | none => exact .inl fun _ _ _ _ => rfl
  | some e =>
      dsimp only
      cases Injection.ofForced e with
      | error v => exact .inl fun _ _ _ _ => rfl
      | ok i => exact (reportsOnce_failed _ _ _).bind_pure fun _ => some i

theorem reportsOnce_mutated (kind : TransformerKind) (value next : Json) (hasNext : Bool)
    (y : Except Error (Option Json)) : ReportsOnce c r fun h w => after (do
      mutated h kind value next hasNext
      return y) ⟨c, w⟩ :=
  (reportsOnce_report rfl (by simp [outcomeKinds]) _).bind_pure fun _ => y

/-- A mutation is reported, if there is one. -/
theorem reportsOnce_transform (reference : Json) :
    ReportsOnce c r fun h w => after (transform h reference) ⟨c, w⟩ := by
  unfold ReportsOnce
  simp +contextual only [transform, after_client_bind]
  rw [← ReportsOnce]
  cases c.transformer? with
  | none => exact .inl fun _ _ _ _ => rfl
  | some f =>
      dsimp only
      rcases mutation r f reference with e | ⟨acc, m⟩
      · exact .inl fun _ _ _ _ => rfl
      · dsimp only
        cases m.hasNext with
        | false => exact reportsOnce_mutated _ _ _ _ _
        | true =>
            cases m.next with
            | error v => exact .inl fun _ _ _ _ => rfl
            | ok next => exact reportsOnce_mutated _ _ _ _ _

end Client

/-- Every operation that reports an outcome comes to one report or to nothing. -/
theorem Operation.exists_report {op : Operation} (hop : op.reports = true) (c : Client)
    (r : Registry) : c.ReportsOnce r fun h w => after (op.act h) ⟨c, w⟩ := by
  cases op with
  | isFirst | prepare | updateCallsite | register => cases hop
  | complete type properties value =>
      simp only [act, Client.after_bind_pure]
      exact Client.reportsOnce_report rfl (by simp [Client.outcomeKinds]) _
  | replace type value =>
      simp only [act, Client.after_bind_pure]
      exact Client.reportsOnce_report rfl (by simp [Client.outcomeKinds]) _
  | mutate kind value next hasNext =>
      simp only [act, Client.after_bind_pure]
      exact Client.reportsOnce_report rfl (by simp [Client.outcomeKinds]) _
  | fail name cause details =>
      simp only [act, Client.after_bind_pure]
      exact Client.reportsOnce_failed name cause details
  | raise =>
      simp only [act, Client.after_bind_pure]
      exact Client.reportsOnce_raise
  | transform reference =>
      simp only [act, Client.after_bind_pure]
      exact Client.reportsOnce_transform reference

/-- Only a preparation and a correction change what names a call, or the state. -/
theorem Operation.keepsName_act {σ : Type} (h : Harness σ) (s : Session σ) {op : Operation}
    (hprepare : op ≠ .prepare) (hupdate : ∀ callsite, op ≠ .updateCallsite callsite) :
    Client.KeepsName (op.act h) s := by
  cases op with
  | isFirst =>
      exact Client.keepsName_bind (Client.keepsName_isFirst h s) fun _ s' _ =>
        Client.keepsName_pure _ s'
  | prepare => exact absurd rfl hprepare
  | updateCallsite callsite => exact absurd rfl (hupdate callsite)
  | register =>
      exact Client.keepsName_bind (Client.keepsName_register h s) fun _ s' _ =>
        Client.keepsName_pure _ s'
  | complete type properties value =>
      exact Client.keepsName_bind (Client.keepsName_completed h type properties value s)
        fun _ s' _ => Client.keepsName_pure _ s'
  | replace type value =>
      exact Client.keepsName_bind (Client.keepsName_replaced h type value s) fun _ s' _ =>
        Client.keepsName_pure _ s'
  | mutate kind value next hasNext =>
      exact Client.keepsName_bind (Client.keepsName_mutated h kind value next hasNext s)
        fun _ s' _ => Client.keepsName_pure _ s'
  | fail name cause details =>
      exact Client.keepsName_bind (Client.keepsName_failed h name cause details s) fun _ s' _ =>
        Client.keepsName_pure _ s'
  | raise =>
      exact Client.keepsName_bind (Client.keepsName_raise h s) fun _ s' _ =>
        Client.keepsName_pure _ s'
  | transform reference =>
      exact Client.keepsName_bind (Client.keepsName_transform h reference s) fun _ s' _ =>
        Client.keepsName_pure _ s'

namespace Operation

variable {σ : Type} {op : Operation}

/-- Before its registration only what names a call changes, and only until it is prepared. -/
theorem client_of_early (hop : op.reports = false) (hregister : op ≠ .register) (h : Harness σ)
    (s : Session σ) : (after (op.act h) s).client = s.client ∨
      (s.client.phase = .created ∨ s.client.phase = .prepared) ∧ ∃ callsite clock index,
        (after (op.act h) s).client =
          { s.client with callsite, clock, index, phase := .prepared } := by
  cases op with
  | isFirst =>
      rw [act, Client.after_bind_pure, Client.after_isFirst]
      split <;> exact .inl rfl
  | prepare =>
      rw [act, Client.after_bind_pure]
      rcases Client.exists_after_prepare h s with hsame | ⟨hphase, clock, index, w, hsame⟩
      · exact .inl (congrArg (·.client) hsame)
      · exact .inr ⟨.inl hphase, s.client.callsite, clock, index, congrArg (·.client) hsame⟩
  | updateCallsite callsite =>
      rw [act, Client.after_bind_pure]
      rcases Client.exists_after_updateCallsite h callsite s with
        hsame | ⟨hphase, index, state, hsame⟩
      · exact .inl (congrArg (·.client) hsame)
      · refine .inr ⟨.inr hphase, callsite, s.client.clock, index, ?_⟩
        rw [hsame, ← hphase]
  | register => exact absurd rfl hregister
  | _ => cases hop

/-- A report changes nothing about a call but its phase. -/
theorem client_of_reports (hop : op.reports = true) (h : Harness σ) (s : Session σ) :
    ∃ phase, (after (op.act h) s).client = { s.client with phase } := by
  obtain ⟨c, w⟩ := s
  rcases op.exists_report hop c h.registry with hnone | ⟨phase, kind, outcome, -, -, hreport⟩
  · exact ⟨c.phase, congrArg (·.client) (hnone σ h w rfl)⟩
  · obtain ⟨phase', hclient⟩ := Client.exists_client_of_report h phase kind outcome ⟨c, w⟩
    exact ⟨phase', (congrArg (·.client) (hreport σ h w rfl)).trans hclient⟩

end Operation

/-- A harness over a source, with keys that can be read. -/
def Harness.plain {σ : Type} (source : Source σ) : Harness σ :=
  ⟨{ digesting := .raw }, source, none, .default⟩

end Faultline
