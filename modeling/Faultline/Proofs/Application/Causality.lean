import Faultline.Proofs.Application.Carriage

/-!
# Clocks respect causality

Where one call leads to another, the clock of the other one is later
(`clocks_respect_causality`).  What is stored for a pair of a service and a request is never behind
a clock that was given out for it since the service started over (`Timed`); every preparation merges
it with the clock that came with the request, and ticks.
-/

namespace Faultline

variable {σ : Type}

theorem Client.outruns_tickFrom (c : Client) (stored : Clock) :
    (c.tickFrom stored).Outruns c.incoming.carried ∧ (c.tickFrom stored).Outruns stored := by
  have hmerged : c.tickFrom stored =
      (c.incoming.carried.merge stored).tick c.callsite.service := by
    unfold tickFrom Context.carried
    cases c.incoming.clock with
    | none => rw [Option.map_none, Option.getD_none, Clock.empty_merge]
    | some text => rfl
  rw [hmerged]
  exact Clock.outruns_tick_merge _ _ _

namespace Application

variable {h : Harness σ} {ids : Nat → String} {a a' : Application σ} {p : Provenance}

/-- The clocks given out so far are in order, and none is ahead of what is stored. -/
structure Timed (a : Application σ) (state : State) (beats : List Beat) : Prop where
  prepared : ∀ i service request origin, .prepared i service request origin ∈ beats →
    ∃ c, a.clients[i]? = some c ∧ c.phase ≠ .created ∧
      c.clock.descends c.incoming.carried = true ∧ ∀ o ∈ origin, a.Comes o c.incoming.carried
  stored : ∀ i service request, Lasts service request i beats → ∃ t u, a.Bears i t ∧
    state.clock? service request = some u ∧ u.descends t = true
  leads : ∀ i j, Leads beats i j → ∃ t u, a.Bears i t ∧ a.Bears j u ∧ u.Outruns t

namespace Timed

variable {state state' : State} {beats : List Beat}

theorem later (ht : a.Timed state beats) (hl : a.Later a')
    (hstate : ∀ service request, state'.clock? service request = state.clock? service request) :
    a'.Timed state' beats where
  prepared i service request origin hmem := by
    obtain ⟨c, hc, hphase, hdescends, horigin⟩ := ht.prepared i service request origin hmem
    obtain ⟨c', hc', hlater⟩ := hl.clients i c hc
    obtain ⟨hphase', hclock⟩ := hlater.clock hphase
    refine ⟨c', hc', hphase', ?_, fun o ho => ?_⟩
    · rw [hclock, hlater.incoming]
      exact hdescends
    · rw [hlater.incoming]
      exact hl.comes (horigin o ho)
  stored i service request hlasts := by
    obtain ⟨t, u, hbears, hu, hdescends⟩ := ht.stored i service request hlasts
    exact ⟨t, u, hl.bears hbears, (hstate service request).trans hu, hdescends⟩
  leads i j hleads := by
    obtain ⟨t, u, hi, hj, houtruns⟩ := ht.leads i j hleads
    exact ⟨t, u, hl.bears hi, hl.bears hj, houtruns⟩

/-- Where a service starts over its clocks are gone, and nothing lasts. -/
theorem startOver (ht : a.Timed state beats) (service : String) :
    a.Timed (state.clearService service) (beats ++ [.startedOver service]) where
  prepared i service' request origin hmem := by
    rcases List.mem_append.1 hmem with hmem | hmem
    · exact ht.prepared i service' request origin hmem
    · cases List.mem_singleton.1 hmem
  stored i service' request hlasts := by
    rcases lasts_concat hlasts with ⟨origin, hb⟩ | ⟨hlasts, hne⟩
    · cases hb
    · have hother : service' ≠ service := fun heq => hne (heq ▸ rfl)
      rw [State.clock?_clearService, if_neg hother]
      exact ht.stored i service' request hlasts
  leads i j hleads := by
    rcases leads_concat hleads with hleads | ⟨service', request, origin, hb, -⟩
    · exact ht.leads i j hleads
    · cases hb

/-- A call gets a clock that is later than what came with its request and what is stored, which
the clock replaces. -/
theorem prepare (ht : a.Timed state beats) (hl : a.Later a') {i : Nat} {c : Client}
    (hc : a'.clients[i]? = some c) (hphase : c.phase ≠ .created) {service request : String}
    (hincoming : c.clock.Outruns c.incoming.carried)
    (hstored : c.clock.Outruns ((state.clock? service request).getD .empty))
    (hstate : ∀ service' request', state'.clock? service' request' =
      if service' = service ∧ request' = request then some c.clock
      else state.clock? service' request')
    {origin : Option Origin} (horigin : ∀ o ∈ origin, a'.Comes o c.incoming.carried) :
    a'.Timed state' (beats ++ [.prepared i service request origin]) := by
  have hold : a'.Timed state beats := ht.later hl fun _ _ => rfl
  have hnew : a'.Bears i c.clock := ⟨c, hc, hphase, rfl⟩
  -- What is stored is not behind the lasting calls of the pair, so neither is the new clock.
  have hlasting : ∀ i', Lasts service request i' beats →
      ∃ t, a'.Bears i' t ∧ c.clock.Outruns t := by
    intro i' hlasts
    obtain ⟨t, u, hbears, hu, hdescends⟩ := hold.stored i' service request hlasts
    rw [hu] at hstored
    exact ⟨t, hbears, hstored.of_descends hdescends⟩
  refine ⟨fun i' service' request' origin' hmem => ?_, fun i' service' request' hlasts => ?_,
    fun i' j hleads => ?_⟩
  · rcases List.mem_append.1 hmem with hmem | hmem
    · exact hold.prepared i' service' request' origin' hmem
    · cases List.mem_singleton.1 hmem
      exact ⟨c, hc, hphase, hincoming.1, horigin⟩
  · rw [hstate]
    rcases lasts_concat hlasts with ⟨origin', hb⟩ | ⟨hlasts', -⟩
    · cases hb
      exact ⟨c.clock, c.clock, hnew, if_pos ⟨rfl, rfl⟩, Clock.descends_refl _⟩
    · by_cases hpair : service' = service ∧ request' = request
      · obtain ⟨rfl, rfl⟩ := hpair
        obtain ⟨t, hbears, houtruns⟩ := hlasting i' hlasts'
        exact ⟨t, c.clock, hbears, if_pos ⟨rfl, rfl⟩, houtruns.1⟩
      · rw [if_neg hpair]
        exact hold.stored i' service' request' hlasts'
  · rcases leads_concat hleads with hleads | ⟨service', request', origin', hb, hlast⟩
    · exact hold.leads i' j hleads
    · cases hb
      rcases hlast with hlasts | ⟨server, rfl⟩
      · obtain ⟨t, hbears, houtruns⟩ := hlasting i' hlasts
        exact ⟨t, c.clock, hbears, hnew, houtruns⟩
      · have hcaller := (horigin ⟨server, some i'⟩ rfl).2 i' rfl
        exact ⟨c.incoming.carried, c.clock, hcaller, hnew, hincoming⟩

end Timed

/-! ### Runs -/

/-- Only the operations of clients touch the state. -/
theorem state_step {m : Move} (hm : ∀ i op, m ≠ .operate i op) :
    (a.step h ids m).world.state = a.world.state := by
  cases m with
  | operate i op => exact absurd rfl (hm i op)
  | receive j k =>
      simp only [step, receive]
      split
      · exact Server.state_receive h _
      · rfl
  | _ =>
      simp only [step]
      repeat' split
      all_goals rfl

/-- The clocks come from where the provenance says, and are in order. -/
structure Sound (a : Application σ) (p : Provenance) : Prop where
  placed : a.Placed a p
  timed : a.Timed a.world.state p.beats

theorem sound_start (w : World σ) : (start w).Sound .start where
  placed := ⟨.nil, .nil, .nil⟩
  timed := by
    refine ⟨fun _ _ _ _ hmem => absurd hmem List.not_mem_nil,
      fun i service request hlasts => ?_, fun i j hleads => ?_⟩
    · obtain ⟨front, origin, back, hsplit, -⟩ := hlasts
      simp [Provenance.start] at hsplit
    · cases hleads with
      | samePair hsplit _ => simp [Provenance.start] at hsplit
      | serving hmem => cases hmem

namespace Sound

/-- A client whose call was prepared has its clock. -/
theorem bears_of_hasPrepared (ha : a.Sound p) {i : Nat} {c : Client}
    (hi : p.hasPrepared i = true) (hc : a.clients[i]? = some c) : a.Bears i c.clock := by
  obtain ⟨b, hb, hbi⟩ := List.any_eq_true.1 hi
  cases b with
  | startedOver service => cases hbi
  | prepared j service request origin =>
      obtain rfl : j = i := by simpa using hbi
      obtain ⟨c', hc', hphase, -⟩ := ha.timed.prepared j service request origin hb
      obtain rfl := Option.some.inj (hc.symm.trans hc')
      exact ⟨c, hc, hphase, rfl⟩

/-- A preparation that is not broken off by its greeting. -/
theorem timed_prepare (ha : a.Sound p) {i : Nat} {c : Client} (hc : a.clients[i]? = some c)
    (hcreated : c.phase = .created) {first : Bool} {w : World σ}
    (hgreet : h.greeting c.callsite.service a.world = .ok (first, w)) :
    (a.operate h i .prepare).Timed (after (Client.prepare h) ⟨c, a.world⟩).world.state
      (p.beats ++ Operation.prepare.beats h ⟨c, a.world⟩ i p.clients[i]?.join) := by
  obtain ⟨hclock, hincoming, hphase, hstate⟩ :=
    Client.clock_after_prepare h (s := ⟨c, a.world⟩) hcreated hgreet
  have hl := later_operate h a i .prepare
  -- The service starts over, if it does, before the clock is read.
  have hstarted : a.Timed (a.world.state.startOver first c.callsite.service)
      (p.beats ++ if first then [.startedOver c.callsite.service] else []) := by
    cases first with
    | false => simpa [State.startOver] using ha.timed
    | true => exact ha.timed.startOver c.callsite.service
  have hleft : (a.operate h i .prepare).clients[i]? =
      some (after (Client.prepare h) ⟨c, a.world⟩).client := by
    have hlt := (List.getElem?_eq_some_iff.1 hc).1
    simp only [Application.operate, hc, Operation.act, Client.after_bind_pure]
    exact List.getElem?_set_self hlt
  obtain ⟨origin, horigin, hcomes⟩ := exists_of_forall₂ ha.placed.clients hc
  simp only [Operation.beats, hcreated, if_true, hgreet, horigin, Option.join_some,
    ← List.append_assoc]
  have houtruns := c.outruns_tickFrom (((a.world.state.startOver first c.callsite.service).clock?
    c.callsite.service c.requestId).getD .empty)
  refine hstarted.prepare hl hleft (fun heq => ?_) ?_ ?_ ?_ fun o ho => ?_
  · cases hphase.symm.trans heq
  · rw [hclock, hincoming]
    exact houtruns.1
  · rw [hclock]
    exact houtruns.2
  · rw [hclock]
    exact hstate
  · rw [hincoming]
    exact hl.comes (hcomes o ho)

/-- A preparation that is broken off leaves the clocks alone. -/
theorem beats_prepare_cases (h : Harness σ) (s : Session σ) (i : Nat) (origin : Option Origin) :
    (∃ first w, s.client.phase = .created ∧
      h.greeting s.client.callsite.service s.world = .ok (first, w)) ∨
    Operation.prepare.beats h s i origin = [] ∧
      (after (Client.prepare h) s).world.state = s.world.state := by
  by_cases hcreated : s.client.phase = .created
  · cases hgreet : h.greeting s.client.callsite.service s.world with
    | ok r => exact .inl ⟨r.1, r.2, hcreated, rfl⟩
    | error v =>
        refine .inr ⟨by simp only [Operation.beats, hcreated, if_true, hgreet], ?_⟩
        rw [Client.after_prepare, if_pos ((Phase.canBecome_prepared_iff _).2 hcreated), hgreet]
  · refine .inr ⟨by rw [Operation.beats, if_neg hcreated], ?_⟩
    rw [Client.after_prepare, if_neg (mt (Phase.canBecome_prepared_iff _).1 hcreated)]

theorem timed_operate (ha : a.Sound p) (h : Harness σ) (ids : Nat → String) (i : Nat)
    (op : Operation) : (a.step h ids (.operate i op)).Timed
      (a.step h ids (.operate i op)).world.state (p.step h a (.operate i op)).beats := by
  have hl := later_operate h a i op
  simp only [step, Provenance.step]
  cases hc : a.clients[i]? with
  | none => exact ha.timed.later hl fun _ _ => by simp only [Application.operate, hc]
  | some c =>
      have hworld : (a.operate h i op).world = (after (op.act h) ⟨c, a.world⟩).world := by
        simp only [Application.operate, hc]
      dsimp only
      rw [hworld]
      by_cases hop : op = .prepare
      · subst hop
        rw [Operation.act, Client.after_bind_pure]
        rcases beats_prepare_cases h ⟨c, a.world⟩ i p.clients[i]?.join with
          ⟨first, w, hcreated, hgreet⟩ | ⟨hbeats, hstate⟩
        · exact ha.timed_prepare hc hcreated hgreet
        · rw [hbeats, List.append_nil, hstate]
          exact ha.timed.later hl fun _ _ => rfl
      · have hbeats : op.beats h ⟨c, a.world⟩ i p.clients[i]?.join = [] := by
          cases op <;> first | rfl | exact absurd rfl hop
        rw [hbeats, List.append_nil]
        exact ha.timed.later hl fun service request => op.clock?_act h _ hop service request

theorem step (ha : a.Sound p) (h : Harness σ) (ids : Nat → String) (m : Move) :
    (a.step h ids m).Sound (p.step h a m) := by
  have hl := later_step h ids a m
  refine ⟨(ha.placed.later hl).step (fun i c hi hc => hl.bears (ha.bears_of_hasPrepared hi hc))
    (fun n server hserver => hl.arrives ⟨server, hserver, rfl⟩) h ids m, ?_⟩
  by_cases hm : ∃ i op, m = .operate i op
  · obtain ⟨i, op, rfl⟩ := hm
    exact ha.timed_operate h ids i op
  · have hquiet : ∀ i op, m ≠ .operate i op := fun i op heq => hm ⟨i, op, heq⟩
    rw [state_step hquiet, Provenance.beats_step hquiet]
    exact ha.timed.later hl fun _ _ => rfl

theorem run (ha : a.Sound p) (h : Harness σ) (ids : Nat → String) (moves : List Move) :
    (a.run h ids moves).Sound (a.trace h ids p moves) := by
  induction moves generalizing a p with
  | nil => exact ha
  | cons m moves ih => exact ih (ha.step h ids m)

end Sound

/-- However the operations of clients and servers are ordered: where a call leads to another by
any number of steps, each to a later call of the same service for the same request without a start
of the service in between or to a call that is made while it is served, its clock is before the
other's, as long as no counter is full.  The clock of every call descends from the clock that its
request arrived with. -/
theorem clocks_respect_causality (h : Harness σ) (ids : Nat → String) (w : World σ)
    (moves : List Move)
    (hroom : ∀ c ∈ ((start w).run h ids moves).clients, ∀ service,
      c.clock.get service ≠ 0xFFFFFFFFFFFFFFFF) :
    let a := (start w).run h ids moves
    let beats := beats h ids w moves
    (∀ i j, Relation.TransGen (Leads beats) i j → ∃ c d, a.clients[i]? = some c ∧
      a.clients[j]? = some d ∧ c.clock.compare d.clock = .before) ∧
    ∀ i service request origin, .prepared i service request origin ∈ beats →
      ∃ c, a.clients[i]? = some c ∧ c.clock.descends c.incoming.carried = true ∧
        ∀ o ∈ origin, ∃ server, a.servers[o.server]? = some server ∧
          c.clock.descends server.context.carried = true := by
  intro a beats
  have hsound : a.Sound ((start w).trace h ids .start moves) := (sound_start w).run h ids moves
  have hstep : ∀ i j, Leads beats i j → ∃ c d, a.clients[i]? = some c ∧ a.clients[j]? = some d ∧
      c.clock.compare d.clock = .before := by
    intro i j hleads
    obtain ⟨_, _, ⟨c, hc, -, rfl⟩, ⟨d, hd, -, rfl⟩, houtruns⟩ := hsound.timed.leads i j hleads
    exact ⟨c, d, hc, hd, houtruns.compare_eq (hroom d (List.mem_of_getElem? hd))⟩
  refine ⟨fun i j hchain => ?_, fun i service request origin hmem => ?_⟩
  -- Along the chain; both steps at a call are about the same client.
  · induction hchain with
    | single hleads => exact hstep _ _ hleads
    | tail _ hleads ih =>
        obtain ⟨c, d, hc, hd, hcd⟩ := ih
        obtain ⟨d', e, hd', he, hde⟩ := hstep _ _ hleads
        obtain rfl := Option.some.inj (hd.symm.trans hd')
        exact ⟨c, e, hc, he, Clock.compare_before_trans hcd hde⟩
  · obtain ⟨c, hc, -, hdescends, hcomes⟩ :=
      hsound.timed.prepared i service request origin hmem
    refine ⟨c, hc, hdescends, fun o ho => ?_⟩
    obtain ⟨server, hserver, harrived⟩ := (hcomes o ho).1
    exact ⟨server, hserver, harrived ▸ hdescends⟩

/-- Two calls to the service itself while a call to it is served. -/
def recursiveCalls : List Move :=
  [.keep ⟨{ requestId := some "r" }⟩,
    .create 0 ⟨"a", "b", "m", .empty, "f", 1, ""⟩ none none none,
    .operate 0 .prepare, .deliver 0 "a", .keep ⟨{}⟩, .receive 0 1,
    .create 1 ⟨"a", "b", "m", .empty, "f", 2, ""⟩ none none none,
    .create 1 ⟨"a", "b", "m", .empty, "f", 3, ""⟩ none none none,
    .operate 1 .prepare, .operate 2 .prepare]

theorem clocks_respect_causality_recursiveCalls :
    let h : Harness Script := .plain .scripted
    let w : World Script := ⟨.empty, ⟨[], [], [], 0⟩⟩
    let a := (start w).run h toString recursiveCalls
    let beats := beats h toString w recursiveCalls
    (∀ c ∈ a.clients, ∀ service, c.clock.get service ≠ 0xFFFFFFFFFFFFFFFF) ∧
      a.clients.map (·.clock.toList) = [[("a", 1)], [("a", 2)], [("a", 3)]] ∧
      Relation.TransGen (Leads beats) 0 2 ∧
      (∃ c d, a.clients[0]? = some c ∧ a.clients[2]? = some d ∧
        c.clock.compare d.clock = .before) ∧
      .prepared 2 "a" "0" (some ⟨0, some 0⟩) ∈ beats ∧
      ∃ c server, a.clients[2]? = some c ∧ a.servers[0]? = some server ∧
        c.clock.descends server.context.carried = true := by
  have hclocks : ((start ⟨.empty, ⟨[], [], [], 0⟩⟩).run (.plain .scripted) toString
      recursiveCalls).clients.map (·.clock.toList) = [[("a", 1)], [("a", 2)], [("a", 3)]] := by
    cbv
  have hbeats : beats (.plain .scripted) toString ⟨.empty, ⟨[], [], [], 0⟩⟩ recursiveCalls =
      [.prepared 0 "a" "r" none, .prepared 1 "a" "0" (some ⟨0, some 0⟩),
        .prepared 2 "a" "0" (some ⟨0, some 0⟩)] := by cbv
  intro h w a beats
  change a.clients.map (·.clock.toList) = _ at hclocks
  change beats = _ at hbeats
  have hroom : ∀ c ∈ a.clients, ∀ service, c.clock.get service ≠ 0xFFFFFFFFFFFFFFFF := by
    intro c hc
    have hmem : c.clock.toList ∈ a.clients.map (·.clock.toList) := List.mem_map_of_mem hc
    refine (Clock.forall_get_iff (p := fun _ n => n ≠ 0xFFFFFFFFFFFFFFFF) fun _ => by decide).2 ?_
    rw [hclocks] at hmem
    generalize c.clock.toList = counters at hmem
    revert counters
    decide
  have hfirst : .prepared 1 "a" "0" (some ⟨0, some 0⟩) ∈ beats := by simp [hbeats]
  have hlast : .prepared 2 "a" "0" (some ⟨0, some 0⟩) ∈ beats := by simp [hbeats]
  have hchain : Relation.TransGen (Leads beats) 0 2 := by
    have hsplit : beats = beats.take 2 ++ .prepared 2 "a" "0" (some ⟨0, some 0⟩) :: [] := by
      simp [hbeats]
    have hlasts : Lasts "a" "0" 1 (beats.take 2) :=
      ⟨beats.take 1, some ⟨0, some 0⟩, [], by simp [hbeats], List.not_mem_nil⟩
    exact .tail (.single (.serving hfirst)) (.samePair hsplit hlasts)
  obtain ⟨hordered, hserved⟩ := clocks_respect_causality h toString w recursiveCalls hroom
  refine ⟨hroom, hclocks, hchain, hordered 0 2 hchain, hlast, ?_⟩
  obtain ⟨c, hc, -, hserver⟩ := hserved 2 "a" "0" _ hlast
  obtain ⟨server, hs, hdescends⟩ := hserver _ rfl
  exact ⟨c, server, hc, hs, hdescends⟩

end Application

end Faultline
