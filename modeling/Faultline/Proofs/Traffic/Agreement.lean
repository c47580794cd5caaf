import Faultline.Proofs.Traffic.Explored
import Faultline.Proofs.Traffic.Lockstep

/-!
# Where two worlds agree

A client step reads and writes the state of its world only at the calling service.  So two clients
that differ in nothing but ids and decisions come to the same index and clock in two worlds that
agree at this service, and afterwards the worlds still agree there and are unchanged elsewhere.
The first world is that of an explorer, whose greetings count: `alike_prepare` and `alike_update`
leave it to their users what agreement means at a service that was not greeted.
-/

namespace Faultline

namespace State

/-- The same entries for a service. -/
def SameAt (service : String) (s t : State) : Prop :=
  ∀ request, t.clock? service request = s.clock? service request ∧
    t.index? service request = s.index? service request

/-- The same entries but for a service. -/
def SameBut (service : String) (s t : State) : Prop :=
  ∀ other, other ≠ service → SameAt other s t

theorem SameAt.refl (service : String) (s : State) : SameAt service s s :=
  fun _ => ⟨rfl, rfl⟩

theorem SameAt.symm {service : String} {s t : State} (h : SameAt service s t) :
    SameAt service t s :=
  fun r => ⟨(h r).1.symm, (h r).2.symm⟩

theorem SameAt.trans {service : String} {s t u : State} (h : SameAt service s t)
    (h' : SameAt service t u) : SameAt service s u :=
  fun r => ⟨(h' r).1.trans (h r).1, (h' r).2.trans (h r).2⟩

theorem SameBut.trans {service : String} {s t u : State} (h : SameBut service s t)
    (h' : SameBut service t u) : SameBut service s u :=
  fun other hother => (h other hother).trans (h' other hother)

/-- There is nothing of a service. -/
def Lacks (s : State) (service : String) : Prop :=
  ∀ request, s.clock? service request = none ∧ s.index? service request = none

theorem Lacks.sameAt {service : String} {s t : State} (hs : s.Lacks service)
    (ht : t.Lacks service) : SameAt service s t :=
  fun r => ⟨(ht r).1.trans (hs r).1.symm, (ht r).2.trans (hs r).2.symm⟩

theorem lacks_of_sameAt {service : String} {s t : State} (h : SameAt service s t)
    (hs : s.Lacks service) : t.Lacks service :=
  fun r => ⟨(h r).1.trans (hs r).1, (h r).2.trans (hs r).2⟩

theorem lacks_clearService (s : State) (service : String) :
    (s.clearService service).Lacks service :=
  fun r => by simp

theorem sameBut_startOver (s : State) (first : Bool) (service : String) :
    SameBut service s (s.startOver first service) := by
  intro other hother r
  cases first <;> simp [startOver, hother]

theorem sameBut_arrive (c : Client) (s : State) : SameBut c.callsite.service s (c.arrive s).2 := by
  intro other hother r
  simp [hother]

theorem sameBut_nameIn {σ : Type} (h : Harness σ) (c : Client) (s : State) :
    SameBut c.callsite.service s (c.nameIn h s).2 := by
  intro other hother r
  simp [hother]

end State

namespace Traffic

open State

variable {τ : Type} {h : Harness Explorer} {h' : Harness τ}

/-- The same client but for the request that it makes and what was decided; the faults stand to
each other as `D` says.  The service of a client that is prepared was greeted. -/
structure Beside (D : Option Fault → Option Fault → Prop) (w : World Explorer) (c c' : Client) :
    Prop where
  fault : D c.fault c'.fault
  same : c' = { c with
    outgoingId := c'.outgoingId, generatedId := c'.generatedId, fault := c'.fault }
  greeted : c.phase = .prepared → w.source.greets c.callsite.service = true

variable {D : Option Fault → Option Fault → Prop} {W : World Explorer → World τ → Prop}
variable {w v : World Explorer} {w' v' : World τ} {c c' : Client}

theorem Beside.callsite (hc : Beside D w c c') : c'.callsite = c.callsite := by
  rw [hc.same]

theorem Beside.phase (hc : Beside D w c c') : c'.phase = c.phase := by
  rw [hc.same]

theorem Beside.index (hc : Beside D w c c') : c'.index = c.index := by
  rw [hc.same]

theorem Beside.clock (hc : Beside D w c c') : c'.clock = c.clock := by
  rw [hc.same]

/-- No greeting is taken back. -/
theorem Beside.mono (hc : Beside D w c c')
    (hgreets : ∀ service, w.source.greets service = true → v.source.greets service = true) :
    Beside D v c c' :=
  ⟨hc.fault, hc.same, fun hphase => hgreets _ (hc.greeted hphase)⟩

theorem Beside.named (hc : Beside D w c c') (index : Index) :
    Beside D w { c with index } { c' with index } := by
  refine ⟨hc.fault, ?_, hc.greeted⟩
  rw [hc.same]

theorem Beside.prepared (hc : Beside D w c c') (clock : Clock)
    (hgreeted : v.source.greets c.callsite.service = true) :
    Beside D v { c with phase := .prepared, clock } { c' with phase := .prepared, clock } := by
  refine ⟨hc.fault, ?_, fun _ => hgreeted⟩
  rw [hc.same]

theorem Beside.moved (hc : Beside D w c c') {callsite : Callsite}
    (hservice : callsite.service = c.callsite.service) :
    Beside D w { c with callsite } { c' with callsite } := by
  refine ⟨hc.fault, ?_, ?_⟩
  · rw [hc.same]
  · intro hphase
    rw [hservice]
    exact hc.greeted hphase

theorem beside_client (o : Opening) (id id' : String) (w : World Explorer) (hD : D none none) :
    Beside D w (o.client id) (o.client id') :=
  ⟨hD, rfl, fun hphase => nomatch hphase⟩

theorem sameAt_arrive (hc : Beside D w c c') {s s' : State} (hs : SameAt c.callsite.service s s') :
    (c'.arrive s').1 = (c.arrive s).1 ∧
      SameAt c.callsite.service (c.arrive s).2 (c'.arrive s').2 := by
  have hclock := (hs c.requestId).1
  have hindex := (hs c.requestId).2
  rw [hc.same]
  refine ⟨by simp [hclock, Client.tickFrom], fun r => ?_⟩
  simp [hclock, hindex, (hs r).1, (hs r).2, Client.tickFrom, Client.incomingIndex]

theorem sameAt_nameIn (hdigest : h'.config.digesting = h.config.digesting) (hc : Beside D w c c')
    {s s' : State} (hs : SameAt c.callsite.service s s') :
    (c'.nameIn h' s').1 = (c.nameIn h s).1 ∧
      SameAt c.callsite.service (c.nameIn h s).2 (c'.nameIn h' s').2 := by
  have hindex := (hs c.requestId).2
  rw [hc.same]
  refine ⟨by simp [hindex, Client.nameFrom, hdigest], fun r => ?_⟩
  simp [hindex, (hs r).1, (hs r).2, Client.nameFrom, hdigest]

/-- Two calls are named alike where the states agree at the calling service. -/
theorem alike_advance (hdigest : h'.config.digesting = h.config.digesting) (hc : Beside D w c c')
    (hs : SameAt c.callsite.service w.state w'.state)
    (hW : ∀ s s', SameBut c.callsite.service w.state s → SameBut c.callsite.service w'.state s' →
      SameAt c.callsite.service s s' → W { w with state := s } { w' with state := s' })
    (hmono : ∀ d d', Beside D v d d' → Beside D w d d') :
    Alike W (Beside D) v (Client.advance h ⟨c, w⟩) (Client.advance h' ⟨c', w'⟩) := by
  obtain ⟨hname, hsame⟩ := sameAt_nameIn hdigest hc hs
  have hW := hW _ _ (sameBut_nameIn h c w.state)
    (hc.callsite ▸ sameBut_nameIn h' c' w'.state) hsame
  rw [Client.advance_eq, Client.advance_eq]
  simp only
  rcases hr : c.nameIn h w.state with ⟨r, s⟩
  rcases hr' : c'.nameIn h' w'.state with ⟨r', s'⟩
  rw [hr, hr'] at hname hW
  obtain rfl : r' = r := hname
  cases r' with
  | ok named =>
      exact .ok ((hc.named named).mono fun _ => id) hW
        fun d d' hd => (hmono d d' hd).mono fun _ => id
  | error v =>
      exact .error v (hc.mono fun _ => id) hW fun d d' hd => (hmono d d' hd).mono fun _ => id

theorem alike_update (hdigest : h'.config.digesting = h.config.digesting) (hc : Beside D w c c')
    (hw : W w w') {callsite : Callsite} (hservice : callsite.service = c.callsite.service)
    (hs : w.source.greets c.callsite.service = true → SameAt c.callsite.service w.state w'.state)
    (hW : w.source.greets c.callsite.service = true → ∀ s s',
      SameBut c.callsite.service w.state s → SameBut c.callsite.service w'.state s' →
      SameAt c.callsite.service s s' → W { w with state := s } { w' with state := s' }) :
    Alike W (Beside D) w (Client.updateCallsite h callsite ⟨c, w⟩)
      (Client.updateCallsite h' callsite ⟨c', w'⟩) := by
  rw [Client.updateCallsite_eq, Client.updateCallsite_eq]
  by_cases hphase : c.phase = .prepared
  · rw [if_pos hphase, if_pos (hc.phase.trans hphase)]
    have hgreeted := hc.greeted hphase
    have hs := hs hgreeted
    have hW := hW hgreeted
    rw [← hservice] at hs hW
    exact alike_advance hdigest (hc.moved hservice) hs hW fun _ _ => id
  · rw [if_neg hphase, if_neg fun hphase' => hphase (hc.phase.symm.trans hphase')]
    exact .error _ hc hw fun _ _ => id

/-- Two calls are prepared alike where the states agree at the calling service once the service
has started over. -/
theorem alike_prepare (hh : h.Explores) (hdigest : h'.config.digesting = h.config.digesting)
    (hc : Beside D w c c') (hw : W w w') (hrun : w.source.isRunning = true) {first' : Bool}
    (hgreet' : h'.greeting c'.callsite.service w' = .ok (first', v'))
    (hs : SameAt c.callsite.service
      (w.state.startOver (w.source.greet c.callsite.service).1 c.callsite.service)
      (v'.state.startOver first' c'.callsite.service))
    (hW : ∀ s s', SameBut c.callsite.service w.state s → SameBut c.callsite.service v'.state s' →
      SameAt c.callsite.service s s' →
      W ⟨s, (w.source.greet c.callsite.service).2⟩ { v' with state := s' }) :
    Alike W (Beside D) w (Client.prepare h ⟨c, w⟩) (Client.prepare h' ⟨c', w'⟩) := by
  cases hphase : c.phase.canBecome .prepared with
  | false =>
      rw [Client.prepare_of_not_created h hphase,
        Client.prepare_of_not_created h' (hc.phase ▸ hphase)]
      simp only [hc.phase]
      exact .error _ hc hw fun _ _ => id
  | true =>
      rw [Client.prepare_of_created h hphase, Client.prepare_of_created h' (hc.phase ▸ hphase)]
      simp only [hh.greeting, hgreet']
      obtain ⟨hclock, hsame⟩ := sameAt_arrive hc hs
      have hgreets := Explorer.greets_greet hrun c.callsite.service
      rw [hclock]
      refine alike_advance hdigest (hc.prepared _ ?_) hsame (fun s s' hbut hbut' hsame' => ?_) ?_
      · simp [hgreets]
      · refine hW s s' ?_ ?_ hsame'
        · exact ((sameBut_startOver _ _ _).trans (sameBut_arrive c _)).trans hbut
        · have harrive := sameBut_arrive c' (v'.state.startOver first' c'.callsite.service)
          have hover := sameBut_startOver v'.state first' c'.callsite.service
          rw [hc.callsite] at harrive hover
          exact (hover.trans harrive).trans (hc.callsite ▸ hbut')
      · intro d d' hd
        refine hd.mono fun service hservice => ?_
        simp only [hgreets, hservice, Bool.or_true]

/-- A harness over an explorer; its keys show their components. -/
def plainHarness (asks : Bool) : Harness Explorer :=
  ⟨{ communicationEnabled := asks, digesting := .raw }, .explorer, none, .default⟩

/-- A client is made and prepared. -/
def oneCall : List Move :=
  [.create ⟨⟨"a", "b", "m", .empty, "f", 1, ""⟩, { requestId := some "r" }, none, none, none⟩,
    .prepare 0]

end Traffic

end Faultline
