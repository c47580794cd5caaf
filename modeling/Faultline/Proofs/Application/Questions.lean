import Faultline.Proofs.Application.Basic
import Faultline.Proofs.Server

/-!
# What an application asks

Whatever an application does, its source is asked nothing but whether an execution is new, the
registration of a client's call, its completion with one of the outcomes, and the arrival of a call
at a server (`asked_step`).  This holds for every source, whatever it answers.
-/

namespace Faultline

variable {σ : Type}

/-- A source after a question; one that breaks off leaves it as it was. -/
def Source.put (s : Source σ) (x : σ) : Question → σ
  | .isNew service =>
    match s.isNew service x with
    | .ok (_, y) => y
    | .error _ => x
  | .register record =>
    match s.register record x with
    | .ok (_, y) => y
    | .error _ => x
  | .report record update =>
    match s.report record update x with
    | .ok (_, y) => y
    | .error _ => x

/-- The questions that clients and servers have. -/
inductive Question.Genuine : Question → Prop
  | isNew (service : String) : Genuine (.isNew service)
  | registered (c : Client) : Genuine (.register c.invocationRecord)
  | completed (c : Client) {kind : String} (hkind : kind ∈ Client.outcomeKinds) (outcome : Json) :
    Genuine (.report (c.completionRecord kind outcome) false)
  | arrived (server : Server) (index : String) :
    Genuine (.report (server.arrivalRecord index) false)

/-- A source is left alone or asked one question. -/
def Source.Asked (s : Source σ) (x y : σ) : Prop :=
  y = x ∨ ∃ q : Question, q.Genuine ∧ y = s.put x q

theorem Source.Asked.refl (s : Source σ) (x : σ) : s.Asked x x := .inl rfl

theorem Source.asked_greeting {h : Harness σ} {service : String} {w w' : World σ} {b : Bool}
    (hgreet : h.greeting service w = .ok (b, w')) : h.source.Asked w.source w'.source := by
  unfold Harness.greeting at hgreet
  split at hgreet
  · refine .inr ⟨_, .isNew service, ?_⟩
    rw [put]
    split at hgreet
    · next hask =>
        rw [hask]
        cases hgreet
        rfl
    · next hask =>
        rw [hask]
        cases hgreet
        rfl
    · cases hgreet
  · cases hgreet
    exact .inl rfl

namespace Client

variable (h : Harness σ) (s : Session σ)

theorem asked_isFirst :
    h.source.Asked s.world.source (after (isFirst h) s).world.source := by
  rw [after_isFirst]
  split
  · next hgreet => exact Source.asked_greeting hgreet
  · exact .refl _ _

theorem asked_prepare :
    h.source.Asked s.world.source (after (prepare h) s).world.source := by
  rcases source_prepare h s with hsame | ⟨first, w, hgreet, hsource⟩
  · exact .inl hsame
  · rw [hsource]
    exact Source.asked_greeting hgreet

theorem asked_register :
    h.source.Asked s.world.source (after (register h) s).world.source := by
  cases hphase : s.client.phase.canBecome .beforeInvoked with
  | false =>
      rw [after_of_error (register_of_not_prepared h hphase)]
      exact .refl _ _
  | true =>
      cases hconsults : h.consults with
      | false =>
          obtain ⟨fault, hregister⟩ := exists_register_of_not_consults hconsults hphase
          rw [after_of_ok hregister]
          exact .refl _ _
      | true =>
          refine .inr ⟨_, .registered s.client, ?_⟩
          rw [after, register_of_consults hconsults hphase, Source.put]
          rcases h.source.register s.client.invocationRecord s.world.source with v | ⟨d | e, y⟩ <;>
            rfl

/-- An outcome is reported to the source at most once, under its kind. -/
theorem asked_report (phase : Phase) {kind : String} (hkind : kind ∈ outcomeKinds)
    (outcome : Json) :
    h.source.Asked s.world.source (after (report h phase kind outcome) s).world.source := by
  cases hphase : s.client.phase.canBecome phase with
  | false =>
      rw [after_of_error (report_of_not_registered h kind outcome hphase)]
      exact .refl _ _
  | true =>
      by_cases hsilent : s.client.generatedId < 0 ∨ h.consults = false
      · rw [after_of_ok (report_of_silent kind outcome hphase hsilent)]
        exact .refl _ _
      · obtain ⟨hid, hconsults⟩ := not_or.1 hsilent
        refine .inr ⟨_, .completed s.client hkind outcome, ?_⟩
        rw [after, report_of_consults (Bool.not_eq_false _ ▸ hconsults) kind outcome hphase hid,
          Source.put]
        rcases h.source.report (s.client.completionRecord kind outcome) false s.world.source with
          v | ⟨r, y⟩ <;> rfl

end Client

/-- Every operation of a client asks at most one question. -/
theorem Operation.asked_act (h : Harness σ) (s : Session σ) (op : Operation) :
    h.source.Asked s.world.source (after (op.act h) s).world.source := by
  obtain ⟨c, w⟩ := s
  cases hreports : op.reports with
  | true =>
      rcases op.exists_report hreports c h.registry with
        hnone | ⟨phase, kind, outcome, -, hkind, hreport⟩
      · have hafter : after (op.act h) ⟨c, w⟩ = ⟨c, w⟩ := hnone σ h w rfl
        rw [hafter]
        exact .refl _ _
      · have hafter : after (op.act h) ⟨c, w⟩ = after (Client.report h phase kind outcome) ⟨c, w⟩ :=
          hreport σ h w rfl
        rw [hafter]
        exact Client.asked_report h ⟨c, w⟩ phase hkind outcome
  | false =>
      cases op with
      | isFirst =>
          rw [act, Client.after_bind_pure]
          exact Client.asked_isFirst h ⟨c, w⟩
      | prepare =>
          rw [act, Client.after_bind_pure]
          exact Client.asked_prepare h ⟨c, w⟩
      | updateCallsite callsite =>
          rw [act, Client.after_bind_pure]
          rcases Client.exists_after_updateCallsite h callsite ⟨c, w⟩ with
            hsame | ⟨-, index, state, hsame⟩
          · rw [hsame]
            exact .refl _ _
          · rw [hsame]
            exact .refl _ _
      | register =>
          rw [act, Client.after_bind_pure]
          exact Client.asked_register h ⟨c, w⟩
      | _ => cases hreports

/-- A server asks about nothing but an arrival. -/
theorem Server.asked_receive (h : Harness σ) (r : Reception σ) :
    h.source.Asked r.world.source (after (receive h) r).world.source := by
  cases htext : r.server.context.index with
  | none =>
      rw [after, receive_eq, htext]
      exact .refl _ _
  | some text =>
      rw [after_receive h htext]
      cases h.consults with
      | false => exact .refl _ _
      | true =>
          refine .inr ⟨_, .arrived r.server text, ?_⟩
          rw [Source.put]
          rcases h.source.report (r.server.arrivalRecord text) false r.world.source with
            v | ⟨e | ⟨_ | named⟩, y⟩ <;> rfl

namespace Application

variable (h : Harness σ) (ids : Nat → String) (a : Application σ)

/-- A step of an application asks at most one question. -/
theorem asked_step (m : Move) : h.source.Asked a.world.source (a.step h ids m).world.source := by
  cases m with
  | operate i op =>
      simp only [step, operate]
      split
      · exact op.asked_act h _
      · exact .refl _ _
  | receive j k =>
      simp only [step, receive]
      split
      · exact Server.asked_receive h _
      · exact .refl _ _
  | keep s => exact .refl _ _
  | edit k f => exact .refl _ _
  | accept service c => exact .refl _ _
  | create k callsite requestId preliminary transport =>
      simp only [step]
      split <;> exact .refl _ _
  | deliver i service =>
      simp only [step]
      split <;> exact .refl _ _

end Application

end Faultline
