import Faultline.Proofs.Application.Causality
import Faultline.Proofs.Traffic.Basic

/-!
# Traffic where nobody is asked

A service starts over when it is told that an execution is new to it.  Where nobody is asked no
service ever does: what is in the state stays there, and calls go on with it.  A name counts on
from the counters that were there at the start, and a clock is later than the one that was
(`Traffic.GoesOn`).  No execution comes into this, so that what one leaves the next one goes on
with.
-/

namespace Faultline

variable {σ : Type} {h : Harness σ} {old : State}

/-- Nothing of a state is lost: its indexes have given more names, its clocks have gone on. -/
structure State.GoesOn (old state : State) : Prop where
  index? : ∀ {service request b}, old.index? service request = some b →
    ∃ keys i, state.index? service request = some i ∧ b.GoesOn keys i
  clock? : ∀ {service request d}, old.clock? service request = some d →
    ∃ e, state.clock? service request = some e ∧ e.descends d = true

theorem State.GoesOn.refl (old : State) : old.GoesOn old :=
  ⟨fun hb => ⟨[], _, hb, .refl _⟩, fun hd => ⟨_, hd, Clock.descends_refl _⟩⟩

/-- A name that counts on from an index, if there is one yet. -/
def Index.Continues (b : Index) (t : Trail) : Prop :=
  t = [] ∨ ∃ keys key, b.nameAfter keys key = some t

/-- A call goes on with what a state had for its request. -/
structure Client.GoesOn (old : State) (c : Client) : Prop where
  named : ∀ {b}, old.index? c.callsite.service c.requestId = some b → b.Continues c.index.trail
  timed : ∀ {d}, old.clock? c.callsite.service c.requestId = some d → c.phase ≠ .created →
    c.clock.Outruns d

namespace Client

theorem goesOn_client (old : State) (o : Opening) (id : String) : (o.client id).GoesOn old :=
  ⟨fun _ => .inl rfl, fun _ hphase => absurd rfl hphase⟩

section

variable {α : Type} {a : Act σ α} {s : Session σ} {c : Client} {state : State} {fill : Index}
  {b : Index}

/-- The indexes go on where a name is asked for. -/
theorem Touches.exists_index (ha : Touches h a s c state fill) (hstate : old.GoesOn state)
    {service request : String} (hb : old.index? service request = some b) :
    ∃ keys i, (after a s).world.state.index? service request = some i ∧ b.GoesOn keys i := by
  obtain ⟨keys, i, hi, hgoes⟩ := hstate.index? hb
  rw [ha.index?]
  by_cases hpair : service = c.callsite.service ∧ request = c.requestId
  · obtain ⟨rfl, rfl⟩ := hpair
    rw [if_pos ⟨rfl, rfl⟩, hi]
    exact ⟨_, _, rfl, (c.nameFrom_spec h hgoes).2⟩
  · rw [if_neg hpair]
    exact ⟨keys, i, hi, hgoes⟩

/-- The name that is given goes on with the index of the request. -/
theorem Touches.continues (ha : Touches h a s c state fill) (hstate : old.GoesOn state)
    (hb : old.index? c.callsite.service c.requestId = some b)
    (hc : b.Continues s.client.index.trail) : b.Continues (after a s).client.index.trail := by
  obtain ⟨keys, i, hi, hgoes⟩ := hstate.index? hb
  have hname := ha.handedOut
  rw [hi, Option.getD_some, (c.nameFrom_spec h hgoes).1] at hname
  rw [ha.trail]
  cases hout : Client.handedOut a s with
  | none => exact hc
  | some t => exact .inr ⟨keys, c.key h, hname.symm.trans hout⟩

end

/-- Where nobody is asked a preparation does not start over. -/
theorem goesOn_prepare (hsilent : h.consults = false) {s : Session σ}
    (hstate : old.GoesOn s.world.state) (hc : s.client.GoesOn old) :
    old.GoesOn (after (prepare h) s).world.state ∧ (after (prepare h) s).client.GoesOn old := by
  by_cases hphase : s.client.phase = .created
  · have hgreet : h.greeting s.client.callsite.service s.world = .ok (false, s.world) := by
      simp [Harness.greeting, hsilent]
    have htouches := touches_prepare h hphase hgreet
    obtain ⟨hclock, -, -, hclocks⟩ := clock_after_prepare h hphase hgreet
    have hbehind : ∀ {d}, old.clock? s.client.callsite.service s.client.requestId = some d →
        (after (prepare h) s).client.clock.Outruns d := by
      intro d hd
      obtain ⟨e, he, hdescends⟩ := hstate.clock? hd
      rw [hclock]
      refine (Client.outruns_tickFrom s.client _).2.of_descends ?_
      exact he ▸ hdescends
    refine ⟨⟨htouches.exists_index hstate, fun {service request d} hd => ?_⟩, ?_⟩
    · rw [hclocks]
      by_cases hpair : service = s.client.callsite.service ∧ request = s.client.requestId
      · obtain ⟨rfl, rfl⟩ := hpair
        rw [if_pos ⟨rfl, rfl⟩, ← hclock]
        exact ⟨_, rfl, (hbehind hd).1⟩
      · rw [if_neg hpair]
        exact hstate.clock? hd
    · have hnamed : ∀ {b}, old.index? s.client.callsite.service s.client.requestId = some b →
          b.Continues (after (prepare h) s).client.index.trail :=
        fun hb => htouches.continues hstate hb (hc.named hb)
      rcases exists_after_prepare h s with hsame | ⟨-, clock, index, w, hsame⟩
      · rw [hsame]
        exact hc
      · rw [hsame] at hnamed hbehind ⊢
        exact ⟨hnamed, fun hd _ => hbehind hd⟩
  · rw [after_prepare, if_neg (mt (Phase.canBecome_prepared_iff _).1 hphase)]
    exact ⟨hstate, hc⟩

theorem goesOn_updateCallsite (h : Harness σ) {s : Session σ} {callsite : Callsite}
    (hservice : callsite.service = s.client.callsite.service) (hstate : old.GoesOn s.world.state)
    (hc : s.client.GoesOn old) :
    old.GoesOn (after (updateCallsite h callsite) s).world.state ∧
      (after (updateCallsite h callsite) s).client.GoesOn old := by
  rcases exists_after_updateCallsite h callsite s with hsame | ⟨hphase, index, state, hsame⟩
  · rw [hsame]
    exact ⟨hstate, hc⟩
  · have htouches := touches_updateCallsite h callsite hphase
    have hop : Operation.updateCallsite callsite ≠ .prepare := nofun
    have hclocks := Operation.clock?_act h s hop
    rw [Operation.act, after_bind_pure] at hclocks
    refine ⟨⟨htouches.exists_index hstate, fun hd => ?_⟩, ?_⟩
    · rw [hclocks]
      exact hstate.clock? hd
    · have hnamed : ∀ {b}, old.index? callsite.service s.client.requestId = some b →
          b.Continues (after (updateCallsite h callsite) s).client.index.trail :=
        fun hb => htouches.continues hstate hb (hc.named (hservice ▸ hb))
      rw [hsame] at hnamed ⊢
      exact ⟨hnamed, fun hd hphase => hc.timed (hservice ▸ hd) hphase⟩

theorem goesOn_register (hsilent : h.consults = false) {s : Session σ}
    (hstate : old.GoesOn s.world.state) (hc : s.client.GoesOn old) :
    old.GoesOn (after (register h) s).world.state ∧ (after (register h) s).client.GoesOn old := by
  cases hphase : s.client.phase.canBecome .beforeInvoked with
  | false =>
      rw [after_of_error (register_of_not_prepared h hphase)]
      exact ⟨hstate, hc⟩
  | true =>
      have hprepared := Phase.canBecome_beforeInvoked hphase
      obtain ⟨fault, hregister⟩ := exists_register_of_not_consults hsilent hphase
      rw [after_of_ok hregister]
      exact ⟨hstate, hc.named, fun hd _ => hc.timed hd (by simp [hprepared])⟩

end Client

/-! ### Whole runs -/

namespace Traffic

variable {t : Traffic σ}

/-- Traffic goes on with what a state had. -/
structure GoesOn (old : State) (t : Traffic σ) : Prop where
  state : old.GoesOn t.world.state
  clients : ∀ c ∈ t.clients, c.GoesOn old

theorem goesOn_start (w : World σ) : (start w).GoesOn w.state :=
  ⟨.refl w.state, fun _ hc => nomatch hc⟩

theorem world_settle (t : Traffic σ) (i : Nat) (a : Client.Act σ Unit) (s : Session σ) :
    (t.settle i (a s)).world = (after a s).world := by
  unfold settle after
  cases a s <;> rfl

theorem clients_settle (t : Traffic σ) (i : Nat) (a : Client.Act σ Unit) (s : Session σ) :
    (t.settle i (a s)).clients = t.clients.set i (after a s).client := by
  unfold settle after
  cases a s <;> rfl

theorem goesOn_act (ht : t.GoesOn old) (i : Nat) {a : Client → Client.Act σ Unit}
    (ha : ∀ c, c.GoesOn old → old.GoesOn (after (a c) ⟨c, t.world⟩).world.state ∧
      (after (a c) ⟨c, t.world⟩).client.GoesOn old) : (t.act i a).GoesOn old := by
  unfold act
  cases hi : t.clients[i]? with
  | none => exact ht
  | some c =>
      obtain ⟨hstate, hclient⟩ := ha c (ht.clients c (List.mem_of_getElem? hi))
      refine ⟨(t.world_settle i (a c) ⟨c, t.world⟩).symm ▸ hstate, fun d hd => ?_⟩
      rw [clients_settle] at hd
      rcases List.mem_or_eq_of_mem_set hd with hd | rfl
      · exact ht.clients d hd
      · exact hclient

theorem goesOn_step (hsilent : h.consults = false) (ids : Nat → String) (ht : t.GoesOn old)
    (m : Move) : (t.step h ids m).GoesOn old := by
  cases m with
  | create o =>
      refine ⟨ht.state, fun c hc => ?_⟩
      rcases List.mem_append.1 hc with hc | hc
      · exact ht.clients c hc
      · obtain rfl := List.mem_singleton.1 hc
        exact Client.goesOn_client old o _
  | prepare i => exact goesOn_act ht i fun c hc => Client.goesOn_prepare hsilent ht.state hc
  | update i callsite =>
      exact goesOn_act ht i fun c hc => Client.goesOn_updateCallsite h rfl ht.state hc
  | register i => exact goesOn_act ht i fun c hc => Client.goesOn_register hsilent ht.state hc

theorem goesOn_run (hsilent : h.consults = false) (ids : Nat → String) (ht : t.GoesOn old)
    (moves : List Move) : (t.run h ids moves).GoesOn old := by
  induction moves generalizing t with
  | nil => exact ht
  | cons m moves ih => exact ih (goesOn_step hsilent ids ht m)

end Traffic

end Faultline
