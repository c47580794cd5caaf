import Faultline.Proofs.Counterexample
import Faultline.Proofs.Traffic.Agreement

/-!
# Replays

An execution of an explorer and the replay of the counterexample of its plan.  The explorer's
harness starts a service over with its first call, the replay never does; from an empty state this
makes no difference, since a service without greetings has left nothing (`Shadowed`).  The one
decides by the trail of the call, the other by its text, which come to the same.
-/

namespace Faultline

namespace Traffic

open State

variable {τ : Type} {h : Harness Explorer} {h' : Harness τ} {p : Plan} {source : τ}
variable {w : World Explorer} {w' : World τ}

/-- The replay's world agrees with that of the execution, and its source was not asked. -/
structure Shadowed (p : Plan) (source : τ) (w : World Explorer) (w' : World τ) : Prop where
  carried : w.source.carried? = some p
  planned : ∀ t, w.source.planned? t = p.get? t
  silent : w'.source = source
  same : ∀ service, SameAt service w.state w'.state
  /-- Nothing is there of a service that was not greeted. -/
  lacks : ∀ service, w.source.greets service = false → w.state.Lacks service

theorem Shadowed.isRunning (hw : Shadowed p source w w') : w.source.isRunning = true := by
  have := congrArg Option.isSome hw.carried
  simpa [Explorer.carried?, Explorer.isRunning] using this

theorem lacks_empty (service : String) : State.empty.Lacks service :=
  fun _ => ⟨rfl, rfl⟩

theorem planned?_eq (x : Explorer) (t : Trail) :
    x.planned? t = (x.plan.getD .empty).get? t := by
  unfold Explorer.planned?
  cases x.plan <;> rfl

theorem shadowed_empty {x : Explorer} (hx : x.AtStart) (source : τ) :
    Shadowed (x.plan.getD .empty) source ⟨.empty, x⟩ ⟨.empty, source⟩ :=
  ⟨hx.carried?, planned?_eq x, rfl, fun service => .refl service _,
    fun service _ => lacks_empty service⟩

/-- To start over makes no difference where there is nothing. -/
theorem Shadowed.sameAt_startOver (hw : Shadowed p source w w') (service : String) :
    SameAt service (w.state.startOver (w.source.greet service).1 service) w'.state := by
  rw [Explorer.greet_fst hw.isRunning]
  cases hgreets : w.source.greets service with
  | true => exact hw.same service
  | false =>
      have hlacks := lacks_of_sameAt (hw.same service) (hw.lacks service hgreets)
      exact (lacks_clearService w.state service).sameAt hlacks

theorem Shadowed.sameAt (hw : Shadowed p source w w') {service : String} {s s' : State}
    (hbut : SameBut service w.state s) (hbut' : SameBut service w'.state s')
    (hsame : SameAt service s s') (other : String) : SameAt other s s' := by
  by_cases heq : other = service
  · exact heq ▸ hsame
  · exact ((hbut other heq).symm.trans (hw.same other)).trans (hbut' other heq)

theorem Shadowed.greet (hw : Shadowed p source w w') {service : String} {s s' : State}
    (hbut : SameBut service w.state s) (hbut' : SameBut service w'.state s')
    (hsame : SameAt service s s') :
    Shadowed p source ⟨s, (w.source.greet service).2⟩ { w' with state := s' } := by
  have hplans := Explorer.samePlans_greet w.source service
  refine ⟨hplans.carried.trans hw.carried, ?_, hw.silent, hw.sameAt hbut hbut' hsame, ?_⟩
  · intro t
    simp only [Explorer.planned?, hplans.plan]
    exact hw.planned t
  · intro other hother
    rw [Explorer.greets_greet hw.isRunning, Bool.or_eq_false_iff] at hother
    have hne : other ≠ service := by simpa using hother.1
    exact lacks_of_sameAt (hbut other hne) (hw.lacks other hother.2)

theorem Shadowed.change (hw : Shadowed p source w w') {service : String} {s s' : State}
    (hgreeted : w.source.greets service = true) (hbut : SameBut service w.state s)
    (hbut' : SameBut service w'.state s') (hsame : SameAt service s s') :
    Shadowed p source { w with state := s } { w' with state := s' } := by
  refine ⟨hw.carried, hw.planned, hw.silent, hw.sameAt hbut hbut' hsame, ?_⟩
  intro other hother
  have hne : other ≠ service := by
    rintro rfl
    exact absurd (hgreeted.symm.trans hother) (by decide)
  exact lacks_of_sameAt (hbut other hne) (hw.lacks other hother)

/-- An execution of an explorer and a replay of its plan go side by side. -/
theorem lockstep_shadowed (hh : h.Explores) (hdigest : h'.config.digesting = h.config.digesting)
    (hreplay : h'.counterexample = some (.ofPlan p)) :
    Lockstep h h' (Shadowed p source) (Beside Eq) where
  create o id id' w := beside_client o id id' w rfl
  service _ _ _ hc := by rw [hc.callsite]
  prepare c c' w w' hc hw := by
    have hsilent : h'.greeting c'.callsite.service w' = .ok (false, w') := by
      rw [Harness.greeting, Harness.consults_eq_false_of_counterexample hreplay]
      rfl
    exact alike_prepare hh hdigest hc hw hw.isRunning hsilent (hw.sameAt_startOver _)
      fun _ _ => hw.greet
  update callsite c c' w w' hc hw hservice :=
    alike_update hdigest hc hw hservice (fun _ => hw.same _) fun hgreeted _ _ => hw.change hgreeted
  register c c' w w' hc hw := by
    cases hphase : c.phase.canBecome .beforeInvoked with
    | false =>
        rw [Client.register_of_not_prepared h hphase,
          Client.register_of_not_prepared h' (hc.phase ▸ hphase)]
        simp only [hc.phase]
        exact .error _ hc hw fun _ _ => id
    | true =>
        obtain ⟨id', x, hx, hcarried, hplan, hgreets⟩ :=
          Client.exists_register_eq hh (s := ⟨c, w⟩) hphase hw.isRunning
        rw [hx, Client.register_of_replay hreplay (hc.phase ▸ hphase)]
        refine .ok ⟨?_, ?_, ?_⟩ ?_ ?_
        · simp only [hc.index, Index.text, Counterexample.fault_ofPlan, hw.planned]
          rfl
        · simp only
          rw [hc.same]
        · intro hprepared
          cases hprepared
        · refine ⟨hcarried.trans hw.carried, ?_, hw.silent, hw.same, ?_⟩
          · intro t
            simp only [Explorer.planned?, hplan]
            exact hw.planned t
          · intro service hs
            simp only [hgreets] at hs
            exact hw.lacks service hs
        · intro d d' hd
          exact hd.mono fun service hservice => (hgreets service).trans hservice

/-- The counterexample of an execution, through its document, replays the execution: every call gets
the same index, the same clock and the same fault, whatever the source, which is not asked. -/
theorem replay_agrees (hh : h.Explores) {x : Explorer} (hx : x.AtStart)
    (hp : (x.plan.getD .empty).Portable) (ids ids' : Nat → String) (moves : List Move) :
    ∃ e c, ((start ⟨.empty, x⟩).run h ids moves).world.source.current = some e ∧
      Counterexample.ofJson (Counterexample.ofPlan e.faults).toJson = .ok c ∧
      ∀ (τ : Type) (h' : Harness τ) (source : τ),
        h'.config.digesting = h.config.digesting → h'.counterexample = some c →
        ((start ⟨.empty, source⟩).run h' ids' moves).world.source = source ∧
        ((start ⟨.empty, source⟩).run h' ids' moves).violations =
          ((start ⟨.empty, x⟩).run h ids moves).violations ∧
        List.Forall₂ (fun c c' => c'.index = c.index ∧ c'.clock = c.clock ∧ c'.fault = c.fault)
          ((start ⟨.empty, x⟩).run h ids moves).clients
          ((start ⟨.empty, source⟩).run h' ids' moves).clients := by
  have hrelated : ∀ (τ : Type) (h' : Harness τ) (source : τ),
      h'.config.digesting = h.config.digesting →
      h'.counterexample = some (.ofPlan (x.plan.getD .empty)) →
      Related (Shadowed (x.plan.getD .empty) source) (Beside Eq)
        ((start ⟨.empty, x⟩).run h ids moves) ((start ⟨.empty, source⟩).run h' ids' moves) := by
    intro τ h' source hdigest hreplay
    exact related_run (lockstep_shadowed hh hdigest hreplay) ids ids'
      (related_start (shadowed_empty hx source)) moves
  -- the faults at the end are those at the start, as any replay shows
  have hlive := hrelated Explorer { h with counterexample := some _ } x rfl rfl
  obtain ⟨e, he, hfaults⟩ := Option.map_eq_some_iff.1 hlive.world.carried
  refine ⟨e, .ofPlan (x.plan.getD .empty), he, ?_, ?_⟩
  · rw [hfaults]
    exact Counterexample.ofJson_toJson hp
  · intro τ h' source hdigest hreplay
    have hrun := hrelated τ h' source hdigest hreplay
    refine ⟨hrun.world.silent, hrun.violations, hrun.clients.imp ?_⟩
    intro c c' hc
    exact ⟨hc.index, hc.clock, hc.fault.symm⟩

/-- A plan with a fault for the one call. -/
def onePlan : Plan :=
  ⟨[([("V1-[]-[a]-[b,m,[]]-[f,1]-[,]", 1)], .ofTransformer .text)]⟩

theorem portable_onePlan : onePlan.Portable := by
  constructor
  · intro e he
    obtain rfl := List.mem_singleton.1 he
    exact ⟨by cbv, by cbv⟩
  · intro e he
    obtain rfl := List.mem_singleton.1 he
    decide

/-- An explorer about to carry out this plan. -/
def withOnePlan : Explorer :=
  { Explorer.start none false with plan := some onePlan, current := some (.ofPlan onePlan) }

/-- The one call with its registration. -/
def registered : List Move :=
  oneCall ++ [.register 0]

theorem replay_agrees_onePlan :
    (plainHarness true).Explores ∧ withOnePlan.AtStart ∧ onePlan.Portable ∧
      ((start ⟨.empty, withOnePlan⟩).run (plainHarness true) toString registered).clients.map
        (·.fault.isSome) = [true] ∧
      ∃ e c, ((start ⟨.empty, withOnePlan⟩).run (plainHarness true) toString
          registered).world.source.current = some e ∧
        Counterexample.ofJson (Counterexample.ofPlan e.faults).toJson = .ok c ∧
        List.Forall₂ (fun c c' => c'.index = c.index ∧ c'.clock = c.clock ∧ c'.fault = c.fault)
          ((start ⟨.empty, withOnePlan⟩).run (plainHarness true) toString registered).clients
          ((start ⟨.empty, withOnePlan⟩).run { plainHarness true with counterexample := some c }
            toString registered).clients := by
  have hh : (plainHarness true).Explores := ⟨rfl, rfl⟩
  refine ⟨hh, rfl, portable_onePlan, by cbv, ?_⟩
  obtain ⟨e, c, he, hc, hreplay⟩ :=
    @replay_agrees (plainHarness true) hh withOnePlan rfl portable_onePlan toString toString
      registered
  exact ⟨e, c, he, hc, (hreplay Explorer { plainHarness true with counterexample := some c }
    withOnePlan rfl rfl).2.2⟩

end Traffic

end Faultline
