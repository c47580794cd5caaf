import Faultline.Proofs.Tree.Counts

/-!
# What every tree keeps

Every step of a tree keeps its clients apart by the ids that they drew, each with the trail of the
request that it serves, and its calls named one after the other, whatever the order of the steps
(`Sound`).
-/

namespace Faultline

variable {σ : Type} {root : String} {base : Trail} {cs : List Call}

/-! ### One preparation -/

namespace Client

/-- The state in which a client looks for the name of its call. -/
def arrived (c : Client) (s : State) (first : Bool) : State :=
  (c.arrive (s.startOver first c.callsite.service)).2

/-- A preparation breaks off before it touches the state, or it asks the index of the request for
a name. -/
theorem prepare_cases (h : Harness σ) (c : Client) (w : World σ) :
    (∃ v s, prepare h ⟨c, w⟩ = .error v s ∧ Session.SameName ⟨c, w⟩ s ∧
      (c.phase = .created → ∃ v, h.greeting c.callsite.service w = .error v)) ∨
      c.phase = .created ∧ ∃ first w' clock,
        h.greeting c.callsite.service w = .ok (first, w') ∧
        prepare h ⟨c, w⟩ = match c.nameIn h (c.arrived w.state first) with
          | (.ok named, s) =>
            .ok () ⟨{ c with phase := .prepared, clock := clock, index := named },
              { w' with state := s }⟩
          | (.error v, s) => .error v ⟨{ c with phase := .prepared, clock := clock },
              { w' with state := s }⟩ := by
  cases hphase : c.phase.canBecome .prepared with
  | false =>
      refine .inl ⟨_, _, prepare_of_not_created h (s := ⟨c, w⟩) hphase, .refl _, ?_⟩
      intro hcreated
      rw [(Phase.canBecome_prepared_iff c.phase).2 hcreated] at hphase
      cases hphase
  | true =>
      have hprepare := prepare_of_created h (s := ⟨c, w⟩) hphase
      cases hgreet : h.greeting c.callsite.service w with
      | error v =>
          simp only [hgreet] at hprepare
          have hsame : Session.SameName ⟨c, w⟩ ⟨{ c with phase := .prepared }, w⟩ :=
            ⟨rfl, rfl, rfl, rfl, rfl, fun hcreated => (by cases hcreated), rfl⟩
          exact .inl ⟨_, _, hprepare, hsame, fun _ => ⟨v, rfl⟩⟩
      | ok r =>
          obtain ⟨first, w'⟩ := r
          simp only [hgreet, advance_eq, Harness.state_of_greeting hgreet] at hprepare
          exact .inr ⟨(Phase.canBecome_prepared_iff c.phase).1 hphase, first, w', _, rfl, hprepare⟩

theorem exists_index?_arrived (c : Client) (s : State) (first : Bool) :
    ∃ i, (c.arrived s first).index? c.callsite.service c.requestId = some i := by
  rw [arrived, index?_arrive, if_pos ⟨rfl, rfl⟩]
  exact ⟨_, rfl⟩

/-- An arrival brings no entry into being at another request. -/
theorem index?_arrived_of_ne (c : Client) (s : State) (first : Bool) {service request : String}
    (hne : request ≠ c.requestId) (hnone : s.index? service request = none) :
    (c.arrived s first).index? service request = none := by
  rw [arrived, index?_arrive, if_neg fun hpair => hne hpair.2]
  cases first with
  | false => exact hnone
  | true => simp [State.startOver, hnone]

theorem index?_nameIn_of_ne {h : Harness σ} {c : Client} {s s' : State} {r : Except Violation Index}
    (hname : c.nameIn h s = (r, s')) {service request : String} (hne : request ≠ c.requestId) :
    s'.index? service request = s.index? service request := by
  have hindex := index?_nameIn h c s service request
  rw [hname, if_neg fun hpair => hne hpair.2] at hindex
  exact hindex

/-! ### What is known of a client -/

/-- A client serves an open request; the request that it makes is untouched until it has a name,
and opens with that name. -/
structure Fits (root : String) (base : Trail) (cs : List Call) (s : State) (c : Client) :
    Prop where
  opens : ∃ u, Call.Opens root base cs c.requestId u ∧ c.incomingIndex = .ofTrail u
  unnamed : c.phase = .created → ∀ p ∈ cs, p.id ≠ c.outgoingId
  blank : (∀ p ∈ cs, p.id ≠ c.outgoingId) → ∀ service, s.index? service c.outgoingId = none
  carried : ∀ p ∈ cs, p.id = c.outgoingId → c.index.trail = p.trail

theorem Fits.of_sameName {c : Client} {w : World σ} {s : Session σ}
    (hc : c.Fits root base cs w.state) (h : Session.SameName ⟨c, w⟩ s) :
    s.client.Fits root base cs s.world.state where
  opens := by
    obtain ⟨u, hu, hincoming⟩ := hc.opens
    refine ⟨u, h.requestId ▸ hu, ?_⟩
    rw [incomingIndex, h.incoming]
    exact hincoming
  unnamed := fun hphase => h.outgoingId ▸ hc.unnamed (h.phase hphase)
  blank := by
    rw [h.outgoingId, h.state]
    exact hc.blank
  carried := by
    rw [h.outgoingId, h.index]
    exact hc.carried

/-- What happens in the state leaves a client alone, unless it touches the request that the client
is about to make. -/
theorem Fits.of_blank {c : Client} {s s' : State} (hc : c.Fits root base cs s)
    (h : (∀ p ∈ cs, p.id ≠ c.outgoingId) → ∀ service,
      s.index? service c.outgoingId = none → s'.index? service c.outgoingId = none) :
    c.Fits root base cs s' where
  opens := hc.opens
  unnamed := hc.unnamed
  blank := fun hid service => h hid service (hc.blank hid service)
  carried := hc.carried

/-- So does the call of another client. -/
theorem Fits.concat {c : Client} {s : State} {p : Call} (hc : c.Fits root base cs s)
    (hne : p.id ≠ c.outgoingId) : c.Fits root base (cs ++ [p]) s where
  opens := by
    obtain ⟨u, hu, hincoming⟩ := hc.opens
    exact ⟨u, hu.append [p], hincoming⟩
  unnamed := fun hphase q hq => by
    rcases List.mem_append.1 hq with hq | hq
    · exact hc.unnamed hphase q hq
    · exact List.mem_singleton.1 hq ▸ hne
  blank := fun hid => hc.blank fun q hq => hid q (List.mem_append_left [p] hq)
  carried := fun q hq hid => by
    rcases List.mem_append.1 hq with hq | hq
    · exact hc.carried q hq hid
    · exact absurd (List.mem_singleton.1 hq ▸ hid) hne

/-- A client that gets a name opens the request that it makes. -/
theorem Fits.named {c : Client} {s : State} (hc : c.Fits root base cs s)
    (hphase : c.phase = .created) (h : Harness σ) (named : Index) (clock : Clock) (s' : State) :
    Fits root base (cs ++ [.ofClient h { c with index := named }]) s'
      { c with phase := .prepared, clock := clock, index := named } where
  opens := by
    obtain ⟨u, hu, hincoming⟩ := hc.opens
    exact ⟨u, hu.append _, hincoming⟩
  unnamed := fun hcreated => by cases hcreated
  blank := fun hid =>
    absurd rfl (hid _ (List.mem_append_right cs (List.mem_singleton_self _)))
  carried := fun p hp hid => by
    rcases List.mem_append.1 hp with hp | hp
    · exact absurd hid (hc.unnamed hphase p hp)
    · obtain rfl := List.mem_singleton.1 hp
      rfl

end Client

namespace Tree

/-- What every tree behind a root request keeps. -/
structure Sound (root : Storage) (t : Tree σ) : Prop where
  named : Call.Named root.serving root.trail t.calls
  storages : ∀ s ∈ t.storages, Call.Opens root.serving root.trail t.calls s.serving s.trail
  clients : ∀ c ∈ t.clients, c.Fits root.serving root.trail t.calls t.world.state
  nodup : t.ids.Nodup
  root_not_mem : root.serving ∉ t.ids
  callers : ∀ p ∈ t.calls, p.id ∈ t.ids
  counts : t.world.state.Counts root.serving root.trail t.calls

variable {h : Harness σ} {root : Storage} {t : Tree σ}

theorem sound_start {w : World σ} (hw : ∀ service, w.state.index? service root.serving = none) :
    Sound root (start root w) where
  named := .nil
  storages := fun s hs => by
    obtain rfl : s = root := List.mem_singleton.1 hs
    exact .inl ⟨rfl, rfl⟩
  clients := fun c hc => by cases hc
  nodup := List.nodup_nil
  root_not_mem := List.not_mem_nil
  callers := fun p hp => by cases hp
  counts := fun service request u hu => by
    obtain ⟨rfl, rfl⟩ : request = root.serving ∧ u = root.trail := by
      rcases hu with hu | ⟨p, hp, -⟩
      · exact hu
      · cases hp
    rw [show (start root w).world.state.index? service root.serving = none from hw service]
    exact Call.counted_ofTrail _ fun p hp => by cases hp

theorem ids_settle {i : Nat} {c : Client} (hc : t.clients[i]? = some c) {s : Session σ}
    (hid : s.client.outgoingId = c.outgoingId) : (t.settle i s).ids = t.ids := by
  have hget : (t.clients.map (·.outgoingId))[i]? = some c.outgoingId := by
    rw [List.getElem?_map, hc]
    rfl
  simp only [ids, settle, List.map_set, hid]
  apply List.ext_getElem?
  intro j
  rw [List.getElem?_set]
  split
  · rename_i hij
    subst hij
    have hlt : i < t.clients.length := (List.getElem?_eq_some_iff.1 hc).1
    rw [List.length_map, if_pos hlt, hget]
  · rfl

/-- The clients after a step of one of them. -/
theorem mem_clients_settle (ht : t.ids.Nodup) {i : Nat} {c : Client}
    (hc : t.clients[i]? = some c) {s : Session σ} {d : Client} (hd : d ∈ (t.settle i s).clients) :
    d = s.client ∨ d ∈ t.clients ∧ c.outgoingId ≠ d.outgoingId := by
  obtain ⟨j, hj⟩ := List.mem_iff_getElem?.1 hd
  rw [settle, List.getElem?_set] at hj
  split at hj
  · split at hj
    · exact .inl (Option.some.inj hj).symm
    · cases hj
  · rename_i hij
    refine .inr ⟨List.mem_of_getElem? hj, fun heq => hij ?_⟩
    have hi : i < t.ids.length := by
      rw [ids, List.length_map]
      exact (List.getElem?_eq_some_iff.1 hc).1
    refine (List.getElem?_inj hi ht).1 ?_
    rw [ids, List.getElem?_map, List.getElem?_map, hc, hj]
    exact congrArg some heq

/-! ### One step -/

/-- A client goes on without a new name. -/
theorem Sound.settle (ht : Sound root t) {i : Nat} {c : Client} (hc : t.clients[i]? = some c)
    {s : Session σ} (hid : s.client.outgoingId = c.outgoingId)
    (hfits : s.client.Fits root.serving root.trail t.calls s.world.state)
    (hblank : ∀ d ∈ t.clients, (∀ p ∈ t.calls, p.id ≠ d.outgoingId) → ∀ service,
      t.world.state.index? service d.outgoingId = none →
      s.world.state.index? service d.outgoingId = none)
    (hcounts : s.world.state.Counts root.serving root.trail t.calls) :
    Sound root (t.settle i s) where
  named := ht.named
  storages := ht.storages
  clients := fun d hd => by
    rcases mem_clients_settle ht.nodup hc hd with rfl | ⟨hd, -⟩
    · exact hfits
    · exact (ht.clients d hd).of_blank (hblank d hd)
  nodup := (ids_settle hc hid).symm ▸ ht.nodup
  root_not_mem := (ids_settle hc hid).symm ▸ ht.root_not_mem
  callers := (ids_settle hc hid).symm ▸ ht.callers
  counts := hcounts

theorem Sound.settle_of_sameName (ht : Sound root t) {i : Nat} {c : Client}
    (hc : t.clients[i]? = some c) {s : Session σ} (hs : Session.SameName ⟨c, t.world⟩ s) :
    Sound root (t.settle i s) := by
  have hfits := (ht.clients c (List.mem_of_getElem? hc)).of_sameName hs
  refine ht.settle hc hs.outgoingId hfits ?_ ?_
  · intro d _ _ service hnone
    rw [hs.state]
    exact hnone
  · rw [hs.state]
    exact ht.counts

theorem Sound.ne_root (ht : Sound root t) {c : Client} (hc : c ∈ t.clients) :
    c.outgoingId ≠ root.serving := fun heq =>
  ht.root_not_mem (heq ▸ List.mem_map_of_mem hc)

/-- A client serves no request that is still to be made. -/
theorem Sound.requestId_ne (ht : Sound root t) {c d : Client} (hc : c ∈ t.clients)
    (hd : d ∈ t.clients) (hid : ∀ p ∈ t.calls, p.id ≠ d.outgoingId) :
    d.outgoingId ≠ c.requestId := by
  obtain ⟨u, hu, -⟩ := (ht.clients c hc).opens
  exact (hu.ne_of_fresh hid (ht.ne_root hd)).symm

/-- A client without a name arrives at the request that it serves, where the index of the request
is ready to give one. -/
theorem Sound.arrived (ht : Sound root t) {c : Client} (hc : c ∈ t.clients) {first : Bool}
    (hfirst : first = true → ∀ p ∈ t.calls, p.service ≠ c.callsite.service) :
    (c.arrived t.world.state first).Counts root.serving root.trail t.calls ∧
      ∀ d ∈ t.clients, (∀ p ∈ t.calls, p.id ≠ d.outgoingId) → ∀ service,
        t.world.state.index? service d.outgoingId = none →
        (c.arrived t.world.state first).index? service d.outgoingId = none := by
  obtain ⟨u, hu, hincoming⟩ := (ht.clients c hc).opens
  exact ⟨(ht.counts.startOver hfirst).arrive ht.named hu hincoming, fun d hd hid service hnone =>
    c.index?_arrived_of_ne _ first (ht.requestId_ne hc hd hid) hnone⟩

/-- A preparation that finds the counter full fills the slot of the request only. -/
theorem Sound.unnamed (ht : Sound root t) {i : Nat} {c : Client} (hc : t.clients[i]? = some c)
    (hphase : c.phase = .created) {first : Bool}
    (hfirst : first = true → ∀ p ∈ t.calls, p.service ≠ c.callsite.service) {v : Violation}
    {s : State} (hname : c.nameIn h (c.arrived t.world.state first) = (.error v, s)) (w : World σ)
    (clock : Clock) : Sound root
      (t.settle i ⟨{ c with phase := .prepared, clock := clock }, { w with state := s }⟩) := by
  have hmem := List.mem_of_getElem? hc
  have hfits := ht.clients c hmem
  have hid := hfits.unnamed hphase
  obtain ⟨hcounts, hblank⟩ := ht.arrived hmem hfirst
  obtain ⟨j, hj⟩ := c.exists_index?_arrived t.world.state first
  have hsame := Client.index?_of_nameIn_error hj hname
  have hblank' : ∀ d ∈ t.clients, (∀ p ∈ t.calls, p.id ≠ d.outgoingId) → ∀ service,
      t.world.state.index? service d.outgoingId = none →
      s.index? service d.outgoingId = none := by
    intro d hd hd' service hnone
    rw [hsame]
    exact hblank d hd hd' service hnone
  refine ht.settle hc rfl ⟨hfits.opens, ?_, ?_, ?_⟩ hblank' ?_
  · intro hcreated
    cases hcreated
  · intro _ service
    exact hblank' c hmem hid service (hfits.blank hid service)
  · intro p hp hp'
    exact absurd hp' (hid p hp)
  · intro service request u hu
    rw [hsame]
    exact hcounts service request u hu

/-- A preparation that succeeds adds a call. -/
theorem Sound.concat (ht : Sound root t) {i : Nat} {c : Client} (hc : t.clients[i]? = some c)
    (hphase : c.phase = .created) {first : Bool}
    (hfirst : first = true → ∀ p ∈ t.calls, p.service ≠ c.callsite.service) {named : Index}
    {s : State} (hname : c.nameIn h (c.arrived t.world.state first) = (.ok named, s)) (w : World σ)
    (clock : Clock) : Sound root
      { t.settle i ⟨{ c with phase := .prepared, clock := clock, index := named },
          { w with state := s }⟩ with
        calls := t.calls ++ [.ofClient h { c with index := named }] } := by
  have hmem := List.mem_of_getElem? hc
  have hfits := ht.clients c hmem
  have hid := hfits.unnamed hphase
  obtain ⟨hcounts, hblank⟩ := ht.arrived hmem hfirst
  obtain ⟨u, hu, -⟩ := hfits.opens
  obtain ⟨j, hj⟩ := c.exists_index?_arrived t.world.state first
  obtain ⟨hnamed, hcounts'⟩ := hcounts.named ht.named hu hj hname hid (ht.ne_root hmem)
    fun service => hblank c hmem hid service (hfits.blank hid service)
  have hids : (t.settle i ⟨{ c with phase := .prepared, clock := clock, index := named },
      { w with state := s }⟩).ids = t.ids := ids_settle hc rfl
  exact {
    named := hnamed
    storages := fun st hst => (ht.storages st hst).append _
    clients := fun d hd => by
      rcases mem_clients_settle ht.nodup hc hd with rfl | ⟨hd, hne⟩
      · exact hfits.named hphase h named clock s
      · refine Client.Fits.concat ((ht.clients d hd).of_blank fun hd' service hnone => ?_) hne
        have hne' := ht.requestId_ne hmem hd hd'
        exact (Client.index?_nameIn_of_ne hname hne').trans (hblank d hd hd' service hnone)
    nodup := hids.symm ▸ ht.nodup
    root_not_mem := hids.symm ▸ ht.root_not_mem
    callers := fun p hp => by
      refine hids.symm ▸ ?_
      rcases List.mem_append.1 hp with hp | hp
      · exact ht.callers p hp
      · exact List.mem_singleton.1 hp ▸ List.mem_map_of_mem hmem
    counts := hcounts' }

theorem Sound.prepare (ht : Sound root t) {i : Nat} {c : Client} (hc : t.clients[i]? = some c)
    (hfirst : ∀ w, h.greeting c.callsite.service t.world = .ok (true, w) →
      ∀ p ∈ t.calls, p.service ≠ c.callsite.service) :
    Sound root (t.prepare h i c) := by
  rcases Client.prepare_cases h c t.world with
    ⟨v, s, hrun, hsame, -⟩ | ⟨hphase, first, w, clock, hgreet, hrun⟩
  · rw [Tree.prepare, hrun]
    exact ht.settle_of_sameName hc hsame
  · have hfirst' : first = true → ∀ p ∈ t.calls, p.service ≠ c.callsite.service := fun hyes =>
      hfirst w (hyes ▸ hgreet)
    rcases hname : c.nameIn h (c.arrived t.world.state first) with ⟨v | named, s⟩
    · rw [Tree.prepare, hrun, hname]
      exact ht.unnamed hc hphase hfirst' hname w clock
    · rw [Tree.prepare, hrun, hname]
      exact ht.concat hc hphase hfirst' hname w clock

/-- A client without a name gets one where the source answers and a number is left. -/
theorem Sound.exists_prepare (ht : Sound root t) {i : Nat} {c : Client}
    (hc : t.clients[i]? = some c) (hphase : c.phase = .created)
    (hfirst : ∀ w, h.greeting c.callsite.service t.world = .ok (true, w) →
      ∀ p ∈ t.calls, p.service ≠ c.callsite.service)
    (hanswer : ∃ r, h.greeting c.callsite.service t.world = .ok r) (hroom : t.HasRoom h root c) :
    ∃ named : Index,
      (t.prepare h i c).calls = t.calls ++ [.ofClient h { c with index := named }] := by
  have hmem := List.mem_of_getElem? hc
  obtain ⟨u, hu, -⟩ := (ht.clients c hmem).opens
  rcases Client.prepare_cases h c t.world with
    ⟨v, s, -, -, hbroken⟩ | ⟨-, first, w, clock, hgreet, hrun⟩
  · obtain ⟨v, hv⟩ := hbroken hphase
    obtain ⟨r, hr⟩ := hanswer
    rw [hv] at hr
    cases hr
  · obtain ⟨hcounts, -⟩ := ht.arrived hmem fun hyes => hfirst w (hyes ▸ hgreet)
    obtain ⟨j, hj⟩ := c.exists_index?_arrived t.world.state first
    have hcounted := hcounts c.callsite.service c.requestId u hu
    rw [hj, Option.getD_some] at hcounted
    have hcounter := hcounted.counter (Key.ofCallsite c.callsite h.config.digesting).rendered
    obtain ⟨after, hnamed, -⟩ := @Index.exists_name j
      (Key.ofCallsite c.callsite h.config.digesting) fun hfull => by
        have hroom := hroom u hu
        rw [← hcounter, hfull] at hroom
        exact absurd hroom (by decide)
    rcases hname : c.nameIn h (c.arrived t.world.state first) with ⟨v | named, s⟩
    · have hfst := c.nameIn_fst h (c.arrived t.world.state first)
      rw [hname, hj, Option.getD_some, Client.nameFrom, hnamed] at hfst
      cases hfst
    · refine ⟨named, ?_⟩
      rw [Tree.prepare, hrun, hname]
      rfl

/-- A client for a call from a request that is served. -/
theorem Sound.create (ht : Sound root t) {s : Storage} (hs : s ∈ t.storages) (callsite : Callsite)
    {id : String} (hid : ¬ t.Concerns root id)
    (hnone : ∀ service, t.world.state.index? service id = none) :
    Sound root { t with clients := t.clients ++ [.make callsite s.snapshot id] } where
  named := ht.named
  storages := ht.storages
  clients := fun d hd => by
    rcases List.mem_append.1 hd with hd | hd
    · exact ht.clients d hd
    · obtain rfl := List.mem_singleton.1 hd
      have hcalls : ∀ p ∈ t.calls, p.id ≠ id := fun p hp heq =>
        hid (.inr (heq ▸ ht.callers p hp))
      exact ⟨⟨s.trail, ht.storages s hs, Client.incomingIndex_make callsite s id⟩, fun _ => hcalls,
        fun _ => hnone, fun p hp hp' => absurd hp' (hcalls p hp)⟩
  nodup := by
    rw [ids, List.map_append, List.nodup_append]
    refine ⟨ht.nodup, List.nodup_singleton _, ?_⟩
    intro a ha b hb heq
    obtain rfl : b = id := List.mem_singleton.1 hb
    exact hid (.inr (heq ▸ ha))
  root_not_mem := by
    rw [ids, List.map_append, List.mem_append]
    rintro (hroot | hroot)
    · exact ht.root_not_mem hroot
    · exact hid (.inl (List.mem_singleton.1 hroot).symm)
  callers := fun p hp => by
    rw [ids, List.map_append]
    exact List.mem_append_left _ (ht.callers p hp)
  counts := ht.counts

/-- A call that was named is served, by a request that opens with its trail. -/
theorem Sound.serve (hkeeps : h.consults = true → h.source.KeepsArrivals) (ht : Sound root t)
    {c : Client} (hc : c ∈ t.clients) (hnamed : c.outgoingId ∈ t.calls.map (·.id))
    (service : String) (into : Storage) : Sound root (t.serve h c service into) := by
  obtain ⟨hstate, hserving⟩ := c.deliver_spec h service into t.world
  have htrail := c.trail_deliver hkeeps service into t.world
  obtain ⟨p, hp, hid⟩ := List.mem_map.1 hnamed
  have hcarried := (ht.clients c hc).carried p hp hid
  exact {
    named := ht.named
    storages := fun s hs => by
      rcases List.mem_append.1 hs with hs | hs
      · exact ht.storages s hs
      · obtain rfl := List.mem_singleton.1 hs
        exact .inr ⟨p, hp, hid.trans hserving.symm, hcarried.symm.trans htrail.symm⟩
    clients := fun d hd => (ht.clients d hd).of_blank fun _ service hnone =>
      (congrArg (State.index? · service d.outgoingId) hstate).trans hnone
    nodup := ht.nodup
    root_not_mem := ht.root_not_mem
    callers := ht.callers
    counts := (congrArg (State.Counts · _ _ _) hstate).mpr ht.counts }

/-- An open request is one of the tree. -/
theorem Sound.concerns (ht : Sound root t) {request : String} {u : Trail}
    (hu : Call.Opens root.serving root.trail t.calls request u) : t.Concerns root request := by
  rcases hu with ⟨hr, -⟩ | ⟨p, hp, hid, -⟩
  · exact .inl hr
  · exact .inr (hid ▸ ht.callers p hp)

theorem Sound.elsewhere (ht : Sound root t) {w : World σ} (hw : ∀ service request,
      t.Concerns root request → w.state.index? service request =
        t.world.state.index? service request) : Sound root { t with world := w } where
  named := ht.named
  storages := ht.storages
  clients := fun d hd => (ht.clients d hd).of_blank fun _ service hnone =>
    (hw service _ (.inr (List.mem_map_of_mem hd))).trans hnone
  nodup := ht.nodup
  root_not_mem := ht.root_not_mem
  callers := ht.callers
  counts := fun service request u hu => by
    rw [show ({ t with world := w } : Tree σ).world.state.index? service request =
      t.world.state.index? service request from hw service request (ht.concerns hu)]
    exact ht.counts service request u hu

theorem sound_step (hkeeps : h.consults = true → h.source.KeepsArrivals) (ht : Sound root t)
    {m : Move σ} (hm : t.Allows h root m) : Sound root (t.step h m) := by
  cases m with
  | create k callsite id =>
      simp only [step]
      cases hs : t.storages[k]? with
      | none => exact ht
      | some s => exact ht.create (List.mem_of_getElem? hs) callsite hm.1 hm.2
  | prepare i =>
      simp only [step]
      cases hc : t.clients[i]? with
      | none => exact ht
      | some c => exact ht.prepare hc (hm c hc)
  | perform i task =>
      simp only [step]
      cases hc : t.clients[i]? with
      | none => exact ht
      | some c => exact ht.settle_of_sameName hc (task.keepsName_act h ⟨c, t.world⟩)
  | serve i service into =>
      simp only [step]
      cases hc : t.clients[i]? with
      | none => exact ht
      | some c => exact ht.serve hkeeps (List.mem_of_getElem? hc) (hm c hc) service into
  | elsewhere w => exact ht.elsewhere hm

theorem Reached.sound (hkeeps : h.consults = true → h.source.KeepsArrivals)
    (ht : Reached h root t) : Sound root t := by
  induction ht with
  | start hw => exact sound_start hw
  | step _ hm ih => exact sound_step hkeeps ih hm

end Tree

end Faultline
