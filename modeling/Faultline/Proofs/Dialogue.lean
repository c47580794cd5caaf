import Faultline.Proofs.Operation
import Faultline.Proofs.Traffic.Basic
import Faultline.Proofs.Traffic.Explored
import Faultline.Source.Script

/-!
# What a source hears of a call

The questions that one client puts to the source, whatever it is asked to do and whatever becomes
of the world in between.  Greetings aside, the source hears nothing, a registration, or a
registration that it gave an id and then one outcome that repeats the registration (`Orderly`).
Which of the three it is depends on the phase of the call, and that is what a step keeps
(`Heard`).
-/

namespace Faultline

/-- What a source was asked. -/
inductive Note where
  | isNew (service : String)
  /-- A registration, with the decision on it if there is one. -/
  | register (record : Json) (decision : Option Decision)
  | report (record : Json) (update : Bool)

namespace Note

def isGreeting : Note → Bool
  | isNew _ => true
  | _ => false

def isRegistration : Note → Bool
  | register _ _ => true
  | _ => false

def isReport : Note → Bool
  | report _ _ => true
  | _ => false

theorem not_isGreeting_of_isRegistration (n : Note) (h : n.isRegistration = true) :
    n.isGreeting = false := by
  cases n <;> first | rfl | cases h

theorem not_isGreeting_of_isReport (n : Note) (h : n.isReport = true) : n.isGreeting = false := by
  cases n <;> first | rfl | cases h

end Note

variable {σ : Type}

namespace Source

/-- A question with a note of it.  A question at which the source breaks off is noted too, and then
counts as one that failed. -/
def overhear {α : Type} (note : Option α → Note) (ask : σ → Reply σ α) (s : σ × List Note) :
    Reply (σ × List Note) α :=
  match ask s.1 with
  | .ok (r, source) => .ok (r, (source, s.2 ++ [note r.toOption]))
  | .error _ => .ok (.error (.io "broken off"), (s.1, s.2 ++ [note none]))

/-- A source with what it was asked, in order. -/
def overheard (s : Source σ) : Source (σ × List Note) where
  name := s.name
  isNew service := overhear (fun _ => .isNew service) (s.isNew service)
  register record := overhear (.register record) (s.register record)
  report record update := overhear (fun _ => .report record update) (s.report record update)

end Source

def Harness.overheard (h : Harness σ) : Harness (σ × List Note) :=
  ⟨h.config, h.source.overheard, h.counterexample, h.registry⟩

/-- A session before anything was heard. -/
def Session.unheard (s : Session σ) : Session (σ × List Note) :=
  ⟨s.client, ⟨s.world.state, (s.world.source, [])⟩⟩

/-- What the source is asked in an operation. -/
def Operation.notes (op : Operation) (h : Harness σ) (s : Session σ) : List Note :=
  (after (op.act h.overheard) s.unheard).world.source.2

/-- A client in its world, with what the source has heard of it. -/
structure Dialogue (σ : Type) where
  session : Session σ
  notes : List Note

namespace Dialogue

/-- The client does something, or something happens in its world. -/
inductive Move (σ : Type) where
  | operate (op : Operation)
  | elsewhere (w : World σ)

def start (c : Client) (w : World σ) : Dialogue σ := ⟨⟨c, w⟩, []⟩

/-- An operation that breaks off keeps what it did before. -/
def step (h : Harness σ) (d : Dialogue σ) : Move σ → Dialogue σ
  | .operate op => ⟨after (op.act h) d.session, d.notes ++ op.notes h d.session⟩
  | .elsewhere w => { d with session := ⟨d.session.client, w⟩ }

def run (h : Harness σ) (d : Dialogue σ) (moves : List (Move σ)) : Dialogue σ :=
  moves.foldl (step h) d

end Dialogue

/-- A completion says of the call what its registration said, under the id that the call got. -/
structure Echoes (registration : Json) (id : Int64) (completion : Json) : Prop where
  generatedId : completion.get? "generated_id" = some (.ofInt64 id)
  facts : ∀ k ∈ ["execution_index", "vclock", "module", "method"],
    ∃ v, registration.get? k = some v ∧ completion.get? k = some v

/-- What a source may hear of a call, greetings aside. -/
inductive Orderly : List Note → Prop
  | silent : Orderly []
  | registered (record : Json) (decision : Option Decision) : Orderly [.register record decision]
  | completed {record completion : Json} {d : Decision} :
    0 ≤ d.generatedId → Echoes record d.generatedId completion →
    Orderly [.register record (some d), .report completion false]

namespace Orderly

variable {notes : List Note}

theorem registrations (hnotes : Orderly notes) : (notes.filter (·.isRegistration)).length ≤ 1 := by
  cases hnotes <;> simp [Note.isRegistration]

theorem reports (hnotes : Orderly notes) : (notes.filter (·.isReport)).length ≤ 1 := by
  cases hnotes <;> simp [Note.isReport]

/-- Before an outcome stands the registration that it echoes. -/
theorem before {before after : List Note} {completion : Json} {update : Bool}
    (h : Orderly (before ++ .report completion update :: after)) :
    ∃ record d, before = [.register record (some d)] ∧ 0 ≤ d.generatedId ∧
      Echoes record d.generatedId completion := by
  match before, h with
  | [_], .completed hid hechoes => exact ⟨_, _, rfl, hid, hechoes⟩
  | _ :: _ :: before, h =>
      -- an outcome is the second note at the latest
      have hne : before ++ .report completion update :: after ≠ [] := by simp
      rw [List.cons_append, List.cons_append] at h
      generalize before ++ .report completion update :: after = rest at h hne
      cases h
      exact absurd rfl hne

end Orderly

/-! ### What the records say -/

namespace Client

theorem get?_invocationRecord_facts (c : Client) :
    c.invocationRecord.get? "execution_index" = some (.str c.index.text) ∧
    c.invocationRecord.get? "vclock" = some c.clock.toJson ∧
    c.invocationRecord.get? "module" = some (.str c.callsite.module) ∧
    c.invocationRecord.get? "method" = some (.str c.callsite.method) := by
  cases hp : c.preliminary <;>
    simp [invocationRecord, preliminaryMember, hp, Json.object, Json.get?, Entries.ofPairs,
      Entries.find?_insert]

theorem get?_completionFacts_facts (c : Client) :
    c.completionFacts.get? "generated_id" = some (.ofInt64 c.generatedId) ∧
    c.completionFacts.get? "execution_index" = some (.str c.index.text) ∧
    c.completionFacts.get? "vclock" = some c.clock.toJson ∧
    c.completionFacts.get? "module" = some (.str c.callsite.module) ∧
    c.completionFacts.get? "method" = some (.str c.callsite.method) := by
  cases hp : c.preliminary <;>
    simp [completionFacts, preliminaryMember, hp, Json.object, Json.get?, Entries.ofPairs,
      Entries.find?_insert]

theorem echoes (c : Client) {kind : String} (hkind : kind ∈ outcomeKinds) (outcome : Json) :
    Echoes c.invocationRecord c.generatedId (c.completionRecord kind outcome) := by
  have hget : ∀ k ∈ ["generated_id", "execution_index", "vclock", "module", "method"],
      (c.completionRecord kind outcome).get? k = c.completionFacts.get? k := by
    intro k hk
    rw [get?_completionRecord, if_neg]
    rintro rfl
    simp only [outcomeKinds, List.mem_cons, List.not_mem_nil, or_false] at hk hkind
    rcases hkind with rfl | rfl | rfl | rfl <;> simp at hk
  obtain ⟨hindex, hclock, hmodule, hmethod⟩ := c.get?_invocationRecord_facts
  obtain ⟨hid', hindex', hclock', hmodule', hmethod'⟩ := c.get?_completionFacts_facts
  refine ⟨(hget _ (by simp)).trans hid', fun k hk => ?_⟩
  rw [hget k (List.mem_cons_of_mem _ hk)]
  simp only [List.mem_cons, List.not_mem_nil, or_false] at hk
  rcases hk with rfl | rfl | rfl | rfl
  · exact ⟨_, hindex, hindex'⟩
  · exact ⟨_, hclock, hclock'⟩
  · exact ⟨_, hmodule, hmodule'⟩
  · exact ⟨_, hmethod, hmethod'⟩

end Client

/-! ### What is heard of an operation -/

/-- A greeting by an overheard source is noted, if the source is asked. -/
theorem Harness.greeting_overheard {h : Harness σ} {service : String} {s : State} {x : σ} {b : Bool}
    {w : World (σ × List Note)}
    (hgreet : h.overheard.greeting service ⟨s, (x, [])⟩ = .ok (b, w)) :
    w.source.2 = [] ∨ w.source.2 = [.isNew service] := by
  unfold greeting at hgreet
  split at hgreet
  · simp only [overheard, Source.overheard, Source.overhear] at hgreet
    rcases hr : h.source.isNew service x with v | ⟨_ | _, x'⟩ <;> rw [hr] at hgreet <;>
      cases hgreet <;> exact .inr rfl
  · cases hgreet
    exact .inl rfl

/-- What is heard of a report: the completion, if the call has an id and the source is asked. -/
theorem Client.exists_report_overheard {h : Harness σ} {s : Session σ} {phase : Phase}
    (hphase : s.client.phase.canBecome phase = true) (kind : String) (outcome : Json) :
    ∃ s', Client.report h.overheard phase kind outcome s.unheard = .ok () s' ∧
      s'.world.source.2 = if s.client.generatedId < 0 ∨ h.consults = false then []
        else [.report (s.client.completionRecord kind outcome) false] := by
  by_cases hskip : s.client.generatedId < 0 ∨ h.consults = false
  · rw [if_pos hskip]
    exact ⟨_, Client.report_of_silent (h := h.overheard) (s := s.unheard) kind outcome hphase hskip,
      rfl⟩
  · rw [if_neg hskip]
    obtain ⟨hid, hconsults⟩ := not_or.1 hskip
    rw [Bool.not_eq_false] at hconsults
    have hreport := Client.report_of_consults (h := h.overheard) (s := s.unheard) hconsults kind
      outcome hphase hid
    simp only [Harness.overheard, Source.overheard, Source.overhear, Session.unheard] at hreport
    rcases hreply : h.source.report (s.client.completionRecord kind outcome) false
      s.world.source with v | ⟨r, x⟩ <;> simp only [hreply] at hreport
    · exact ⟨_, hreport, rfl⟩
    · exact ⟨_, hreport, rfl⟩

namespace Operation

variable {h : Harness σ} {s : Session σ}

/-- Operations that neither register nor report put no question but a greeting. -/
theorem notes_cases {op : Operation} (hop : op.reports = false) (hregister : op ≠ .register) :
    op.notes h s = [] ∨ op.notes h s = [.isNew s.client.callsite.service] := by
  cases op with
  | isFirst =>
      simp only [notes, act, Client.after_bind_pure, Client.after_isFirst]
      cases hgreet : h.overheard.greeting s.unheard.client.callsite.service s.unheard.world with
      | error v => exact .inl rfl
      | ok r => exact Harness.greeting_overheard hgreet
  | prepare =>
      simp only [notes, act, Client.after_bind_pure]
      rcases Client.source_prepare h.overheard s.unheard with hsource | ⟨_, w, hgreet, hsource⟩
      · rw [hsource]
        exact .inl rfl
      · rw [hsource]
        exact Harness.greeting_overheard hgreet
  | updateCallsite callsite =>
      simp only [notes, act, Client.after_bind_pure]
      rcases Client.exists_after_updateCallsite h.overheard callsite s.unheard with
        hsame | ⟨-, _, _, hsame⟩
      · rw [hsame]
        exact .inl rfl
      · rw [hsame]
        exact .inl rfl
  | register => exact absurd rfl hregister
  | _ => cases hop

/-- A source that is asked hears of the registration, and gives the client its id if it decides. -/
theorem register_of_asked (hconsults : h.consults = true)
    (hphase : s.client.phase.canBecome .beforeInvoked = true) :
    ∃ (d : Option Decision) (fault : Option Fault) (w : World σ),
      after (Client.register h) s = ⟨{ s.client with
        phase := .beforeInvoked
        generatedId := (d.map (·.generatedId)).getD s.client.generatedId
        fault }, w⟩ ∧
      (after (Client.register h.overheard) s.unheard).world.source.2 =
        [.register s.client.invocationRecord d] := by
  have hregister := Client.register_of_consults hconsults hphase
  have hregister' := Client.register_of_consults (h := h.overheard) (s := s.unheard) hconsults
    hphase
  simp only [Harness.overheard, Source.overheard, Source.overhear, Session.unheard] at hregister'
  rcases hreply : h.source.register s.client.invocationRecord s.world.source with
    v | ⟨e | d, x⟩ <;> simp only [hreply] at hregister hregister'
  · exact ⟨none, _, _, after_of_error hregister,
      congrArg (·.world.source.2) (after_of_ok hregister')⟩
  · exact ⟨none, _, _, after_of_ok hregister,
      congrArg (·.world.source.2) (after_of_ok hregister')⟩
  · exact ⟨some d, _, _, after_of_ok hregister,
      congrArg (·.world.source.2) (after_of_ok hregister')⟩

/-- A registration is noted with its decision, from which the client has its id. -/
theorem register_cases (h : Harness σ) (s : Session σ) :
    after (Client.register h) s = s ∧ register.notes h s = [] ∨
      s.client.phase = .prepared ∧ ∃ generatedId fault w, after (Client.register h) s =
          ⟨{ s.client with phase := .beforeInvoked, generatedId, fault }, w⟩ ∧
        (register.notes h s = [] ∧ generatedId = s.client.generatedId ∨
          ∃ d : Option Decision, register.notes h s = [.register s.client.invocationRecord d] ∧
            generatedId = (d.map (·.generatedId)).getD s.client.generatedId) := by
  simp only [notes, act, Client.after_bind_pure]
  cases hphase : s.client.phase.canBecome .beforeInvoked with
  | false =>
      refine .inl ⟨after_of_error (Client.register_of_not_prepared h hphase), ?_⟩
      rw [after_of_error (Client.register_of_not_prepared h.overheard (s := s.unheard) hphase)]
      rfl
  | true =>
      refine .inr ⟨Phase.canBecome_beforeInvoked hphase, ?_⟩
      cases hconsults : h.consults with
      | false =>
          obtain ⟨fault, hregister⟩ := Client.exists_register_of_not_consults hconsults hphase
          obtain ⟨fault', hregister'⟩ := Client.exists_register_of_not_consults
            (h := h.overheard) (s := s.unheard) hconsults hphase
          exact ⟨_, fault, _, after_of_ok hregister,
            .inl ⟨congrArg (·.world.source.2) (after_of_ok hregister'), rfl⟩⟩
      | true =>
          obtain ⟨d, fault, w, hafter, hnotes⟩ := register_of_asked hconsults hphase
          exact ⟨_, fault, w, hafter, .inr ⟨d, hnotes, rfl⟩⟩

/-- A report is noted, if the call has an id. -/
theorem report_cases (h : Harness σ) {phase : Phase} (hphase : phase.isTerminal = true)
    (kind : String) (outcome : Json) (s : Session σ) :
    after (Client.report h phase kind outcome) s = s ∧
        (after (Client.report h.overheard phase kind outcome) s.unheard).world.source.2 = [] ∨
      s.client.phase = .beforeInvoked ∧ ∃ w,
        after (Client.report h phase kind outcome) s = ⟨{ s.client with phase }, w⟩ ∧
        ((after (Client.report h.overheard phase kind outcome) s.unheard).world.source.2 = [] ∨
          ¬ s.client.generatedId < 0 ∧
          (after (Client.report h.overheard phase kind outcome) s.unheard).world.source.2 =
            [.report (s.client.completionRecord kind outcome) false]) := by
  cases hs : s.client.phase.canBecome phase with
  | false =>
      refine .inl ⟨after_of_error (Client.report_of_not_registered h kind outcome hs), ?_⟩
      rw [after_of_error (Client.report_of_not_registered h.overheard kind outcome
        (s := s.unheard) hs)]
      rfl
  | true =>
      refine .inr ⟨Phase.canBecome_terminal hphase hs, ?_⟩
      obtain ⟨s', hreport', hheard⟩ := Client.exists_report_overheard (h := h) hs kind outcome
      rw [after_of_ok hreport']
      by_cases hskip : s.client.generatedId < 0 ∨ h.consults = false
      · rw [if_pos hskip] at hheard
        exact ⟨_, after_of_ok (Client.report_of_silent kind outcome hs hskip), .inl hheard⟩
      · rw [if_neg hskip] at hheard
        obtain ⟨hid, hconsults⟩ := not_or.1 hskip
        rw [Bool.not_eq_false] at hconsults
        have hreport := Client.report_of_consults hconsults kind outcome hs hid
        rcases hreply : h.source.report (s.client.completionRecord kind outcome) false
          s.world.source with v | ⟨r, x⟩ <;> simp only [hreply] at hreport
        · exact ⟨_, after_of_error hreport, .inr ⟨hid, hheard⟩⟩
        · exact ⟨_, after_of_ok hreport, .inr ⟨hid, hheard⟩⟩

/-- An operation that reports an outcome ends the call, unless it does nothing. -/
theorem reports_cases {op : Operation} (hop : op.reports = true) :
    after (op.act h) s = s ∧ op.notes h s = [] ∨
      s.client.phase = .beforeInvoked ∧ ∃ phase w, phase.isTerminal = true ∧
        after (op.act h) s = ⟨{ s.client with phase }, w⟩ ∧
        (op.notes h s = [] ∨ ¬ s.client.generatedId < 0 ∧ ∃ kind ∈ Client.outcomeKinds, ∃ outcome,
          op.notes h s = [.report (s.client.completionRecord kind outcome) false]) := by
  obtain ⟨c, w⟩ := s
  rcases op.exists_report hop c h.registry with
    hnone | ⟨phase, kind, outcome, hphase, hkind, hreport⟩
  · exact .inl ⟨hnone σ h w rfl,
      congrArg (·.world.source.2) (hnone _ h.overheard ⟨w.state, (w.source, [])⟩ rfl)⟩
  · have hact : after (op.act h) ⟨c, w⟩ = _ := hreport σ h w rfl
    have hnotes : op.notes h ⟨c, w⟩ = _ :=
      congrArg (·.world.source.2) (hreport _ h.overheard ⟨w.state, (w.source, [])⟩ rfl)
    rw [hact, hnotes]
    rcases report_cases h hphase kind outcome ⟨c, w⟩ with hsame | ⟨hinvoked, w', hleft, hheard⟩
    · exact .inl hsame
    · refine .inr ⟨hinvoked, phase, w', hphase, hleft, hheard.imp_right fun hnoted => ?_⟩
      exact ⟨hnoted.1, kind, hkind, outcome, hnoted.2⟩

end Operation

/-! ### What a run keeps -/

/-- Greetings aside, what the source has heard of a call fits the phase of the call. -/
def Heard (c : Client) (notes : List Note) : Prop :=
  match c.phase with
  | .created | .prepared => notes = [] ∧ c.generatedId = -1
  | .beforeInvoked => notes = [] ∧ c.generatedId = -1 ∨ ∃ d : Option Decision,
      notes = [.register c.invocationRecord d] ∧ c.generatedId = (d.map (·.generatedId)).getD (-1)
  | _ => Orderly notes

theorem Heard.orderly {c : Client} {notes : List Note} (hc : Heard c notes) : Orderly notes := by
  unfold Heard at hc
  split at hc
  · exact hc.1 ▸ .silent
  · exact hc.1 ▸ .silent
  · rcases hc with ⟨rfl, -⟩ | ⟨d, rfl, -⟩
    · exact .silent
    · exact .registered _ d
  · exact hc

theorem Heard.of_terminal {c : Client} {notes : List Note} (hphase : c.phase.isTerminal = true)
    (hnotes : Orderly notes) : Heard c notes := by
  unfold Heard
  split <;> first | exact hnotes | simp_all [Phase.isTerminal]

/-- The notes without the greetings. -/
def matters (notes : List Note) : List Note :=
  notes.filter fun n => !n.isGreeting

theorem filter_matters {p : Note → Bool} (hp : ∀ n, p n = true → n.isGreeting = false)
    (notes : List Note) : (matters notes).filter p = notes.filter p := by
  rw [matters, List.filter_filter]
  congr 1
  funext n
  cases hn : p n with
  | false => rfl
  | true => simp [hp n hn]

theorem matters_append (l l' : List Note) : matters (l ++ l') = matters l ++ matters l' :=
  List.filter_append l l'

/-- An outcome that follows a registration with an id makes the talk complete. -/
theorem Heard.report {c : Client} {notes : List Note} (hc : Heard c notes)
    (hphase : c.phase = .beforeInvoked) (hid : ¬ c.generatedId < 0) {kind : String}
    (hkind : kind ∈ Client.outcomeKinds) (outcome : Json) :
    Orderly (notes ++ [.report (c.completionRecord kind outcome) false]) := by
  simp only [Heard, hphase] at hc
  rcases hc with ⟨-, hnone⟩ | ⟨d, rfl, hd⟩
  · exact absurd (hnone ▸ by decide) hid
  · cases d with
    | none => exact absurd (hd ▸ by decide) hid
    | some d =>
        have hechoes := c.echoes hkind outcome
        rw [hd] at hid hechoes
        exact .completed (Int64.not_lt.1 hid) hechoes

namespace Dialogue

variable {h : Harness σ}

theorem heard_report {s : Session σ} {notes : List Note} (hs : Heard s.client notes)
    {op : Operation} (hop : op.reports = true) :
    Heard (after (op.act h) s).client (notes ++ matters (op.notes h s)) := by
  rcases Operation.reports_cases (h := h) (s := s) hop with
    ⟨hsame, hnotes⟩ | ⟨hinvoked, phase, w, hphase, hsame, hnotes⟩
  · rw [hsame, hnotes]
    simpa [matters] using hs
  · rw [hsame]
    refine .of_terminal hphase ?_
    rcases hnotes with hnotes | ⟨hid, kind, hkind, outcome, hnotes⟩
    · rw [hnotes]
      simpa [matters] using hs.orderly
    · rw [hnotes]
      exact hs.report hinvoked hid hkind outcome

theorem heard_register {s : Session σ} {notes : List Note} (hs : Heard s.client notes) :
    Heard (after (Operation.register.act h) s).client
      (notes ++ matters (Operation.register.notes h s)) := by
  rw [Operation.act, Client.after_bind_pure]
  rcases Operation.register_cases h s with ⟨hsame, hnotes⟩ | ⟨hphase, id, fault, w, hsame, hnotes⟩
  · rw [hsame, hnotes]
    simpa [matters] using hs
  · simp only [Heard, hphase] at hs
    obtain ⟨rfl, hid⟩ := hs
    rw [hsame]
    rcases hnotes with ⟨hnotes, rfl⟩ | ⟨d, hnotes, rfl⟩
    · rw [hnotes]
      exact .inl ⟨rfl, hid⟩
    · rw [hnotes, hid]
      exact .inr ⟨d, rfl, rfl⟩

/-- What a client does before its registration leaves it without an id. -/
theorem heard_before {s : Session σ} {notes : List Note} (hs : Heard s.client notes)
    {op : Operation} (hop : op.reports = false) (hregister : op ≠ .register) :
    Heard (after (op.act h) s).client notes := by
  rcases Operation.client_of_early hop hregister h s with
    hsame | ⟨hphase, callsite, clock, index, hsame⟩
  · rwa [hsame]
  · rw [hsame]
    rcases hphase with hphase | hphase <;>
    · simp only [Heard, hphase] at hs
      exact hs

theorem heard_step {d : Dialogue σ} (hd : Heard d.session.client (matters d.notes)) (m : Move σ) :
    Heard (d.step h m).session.client (matters (d.step h m).notes) := by
  cases m with
  | elsewhere w => exact hd
  | operate op =>
      simp only [step, matters_append]
      cases hop : op.reports with
      | true => exact heard_report hd hop
      | false =>
          by_cases hregister : op = .register
          · exact hregister ▸ heard_register hd
          · have hnotes : matters (op.notes h d.session) = [] := by
              rcases Operation.notes_cases (h := h) (s := d.session) hop hregister with
                hnotes | hnotes <;> rw [hnotes] <;> rfl
            rw [hnotes, List.append_nil]
            exact heard_before hd hop hregister

theorem heard_run {d : Dialogue σ} (hd : Heard d.session.client (matters d.notes))
    (moves : List (Move σ)) :
    Heard (d.run h moves).session.client (matters (d.run h moves).notes) := by
  induction moves generalizing d with
  | nil => exact hd
  | cons m moves ih => exact ih (heard_step hd m)

/-- Whatever a client is asked to do and whatever its source answers, the source hears of one
registration and one outcome at most, and of an outcome only after a registration that it gave an
id; the outcome repeats the id and what the registration said of the call. -/
theorem one_outcome (h : Harness σ) (o : Opening) (id : String) (w : World σ)
    (moves : List (Move σ)) :
    let notes := ((start (o.client id) w).run h moves).notes
    (notes.filter (·.isRegistration)).length ≤ 1 ∧ (notes.filter (·.isReport)).length ≤ 1 ∧
      ∀ before completion update after, notes = before ++ .report completion update :: after →
        ∃ record d, Note.register record (some d) ∈ before ∧ 0 ≤ d.generatedId ∧
          Echoes record d.generatedId completion := by
  intro notes
  have hstart : Heard (o.client id) [] := ⟨rfl, rfl⟩
  have horderly : Orderly (matters notes) :=
    (heard_run (h := h) (d := start (o.client id) w) hstart moves).orderly
  refine ⟨?_, ?_, ?_⟩
  · rw [← filter_matters fun n => n.not_isGreeting_of_isRegistration]
    exact horderly.registrations
  · rw [← filter_matters fun n => n.not_isGreeting_of_isReport]
    exact horderly.reports
  · intro before completion update after hnotes
    rw [hnotes, matters_append] at horderly
    have hsplit : Orderly (matters before ++ .report completion update :: matters after) := horderly
    obtain ⟨record, d, hbefore, hrest⟩ := hsplit.before
    have hmem : Note.register record (some d) ∈ matters before :=
      hbefore ▸ List.mem_singleton_self _
    exact ⟨record, d, List.mem_of_mem_filter hmem, hrest⟩

/-- What the sample's client is made of. -/
def oneOpening : Opening where
  callsite := ⟨"a", "b", "m", .empty, "f", 1, ""⟩
  incoming := { requestId := some "r" }

/-- A call that is completed, with attempts at a second registration and a second outcome. -/
def completedCall : List (Move Script) :=
  [.operate .prepare, .operate .register, .operate (.complete "Reply" [] none),
    .operate (.fail "late" none []), .operate .register]

theorem one_outcome_completed :
    let notes := ((start (oneOpening.client "q") ⟨.empty, ⟨[], [], [], 0⟩⟩).run (.plain .scripted)
      completedCall).notes
    notes.map (·.isReport) = [false, false, true] ∧
      ∀ before completion update after, notes = before ++ .report completion update :: after →
        ∃ record d, Note.register record (some d) ∈ before ∧ 0 ≤ d.generatedId ∧
          Echoes record d.generatedId completion := by
  intro notes
  refine ⟨by unfold notes; cbv, ?_⟩
  exact (one_outcome (.plain .scripted) oneOpening "q" ⟨.empty, ⟨[], [], [], 0⟩⟩ completedCall).2.2

end Dialogue

end Faultline
