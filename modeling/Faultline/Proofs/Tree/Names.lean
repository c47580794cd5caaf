import Faultline.Proofs.Tree.Sound

/-!
# Names in a tree

The indexes of the calls of a tree are pairwise different exactly where keys tell services apart
and no call is repeated both beside and under another one.  Each of the two conditions is needed,
and so is a source that does not rename, as three samples show.
-/

namespace Faultline

/-- Where nobody is asked, a client that finds a number left gets its name. -/
theorem Client.prepare_of_silent {σ : Type} {h : Harness σ} (hsilent : h.consults = false)
    {c : Client} (hphase : c.phase = .created) {w : World σ} {named : Index} {s : State}
    (hname : c.nameIn h (c.arrive w.state).2 = (.ok named, s)) :
    prepare h ⟨c, w⟩ = .ok () ⟨{ c with
      phase := .prepared, clock := (c.arrive w.state).1, index := named },
      { w with state := s }⟩ := by
  have hgreet : h.greeting c.callsite.service w = .ok (false, w) := by
    simp [Harness.greeting, hsilent]
  have hbecome := (Phase.canBecome_prepared_iff c.phase).2 hphase
  have hsame : nameIn h { c with phase := .prepared, clock := (c.arrive w.state).1 }
      (c.arrive w.state).2 = c.nameIn h (c.arrive w.state).2 := rfl
  rw [prepare_of_created h (s := ⟨c, w⟩) hbecome]
  simp only [hgreet, State.startOver, Bool.false_eq_true, if_false, advance_eq]
  rw [hsame, hname]

namespace Tree

variable {σ : Type} {h : Harness σ} {root : Storage} {t : Tree σ}

/-- Under a source that does not rename arriving calls, the indexes of the calls of a tree are
pairwise different exactly where the keys of a request tell services apart and no call is both
repeated in its request and called again under itself.  A client that is prepared adds a call,
unless the source breaks off or no number is left. -/
theorem nodup_names_iff (hkeeps : h.consults = true → h.source.KeepsArrivals)
    (ht : Reached h root t) :
    (t.names.Nodup ↔ Call.KeysTellServices t.calls ∧ ∀ p q e, ¬ Call.Folds t.calls p q e) ∧
      ∀ i c, t.clients[i]? = some c → c.phase = .created → t.Allows h root (.prepare i) →
        (∃ r, h.greeting c.callsite.service t.world = .ok r) → t.HasRoom h root c →
        ∃ named : Index, (t.step h (.prepare i)).calls =
          t.calls ++ [.ofClient h { c with index := named }] := by
  have hsound := ht.sound hkeeps
  have htexts : t.names.Nodup ↔ (t.calls.map (·.trail)).Nodup := by
    have hinj : Function.Injective Trail.text := fun _ _ => Trail.text_inj.1
    rw [names, ← List.nodup_map_iff hinj, List.map_map]
    rfl
  constructor
  · exact htexts.trans hsound.named.nodup_trails_iff
  · intro i c hc hphase hallows hanswer hroom
    simp only [step, hc]
    exact hsound.exists_prepare hc hphase (hallows c hc) hanswer hroom

/-! ### Samples -/

/-- A harness over a source; its keys show their components. -/
def sample (asks : Bool) (source : Source σ) : Harness σ :=
  ⟨{ communicationEnabled := asks, digesting := .raw }, source, none, .default⟩

/-- A source that decides nothing, and gives every call that arrives the same index. -/
def renamer (index : String) : Source Unit where
  name := "renamer"
  isNew _ x := .ok (.ok false, x)
  register _ x := .ok (.ok ⟨-1, none⟩, x)
  report _ _ x := .ok (.ok ⟨some index⟩, x)

def site : Callsite := ⟨"a", "b", "m", .empty, "f", 1, ""⟩

def request : Storage := Storage.empty.setRequestId (some "r")

def blank (x : σ) : Tree σ := start request ⟨.empty, x⟩

theorem reached_blank (h : Harness σ) (x : σ) : Reached h request (blank x) :=
  .start fun _ => rfl

/-- A service that has named no call may start over. -/
theorem allows_prepare {i : Nat}
    (hother : ∀ c ∈ t.clients[i]?, ∀ p ∈ t.calls, p.service ≠ c.callsite.service) :
    t.Allows h root (.prepare i) :=
  fun c hc _ _ => hother c hc

/-- Where nobody is asked nothing starts over. -/
theorem allows_prepare_of_silent (hsilent : h.consults = false) (i : Nat) :
    t.Allows h root (.prepare i) := by
  intro c _ w hgreet
  simp [Harness.greeting, hsilent] at hgreet

theorem allows_create (ids : List String) {id : String} (hids : t.ids = ids) (hroot : id ≠ "r")
    (hid : id ∉ ids) (hnone : ∀ service, t.world.state.index? service id = none) (k : Nat)
    (callsite : Callsite) : t.Allows h request (.create k callsite id) := by
  refine ⟨?_, hnone⟩
  rintro (rfl | hmem)
  · exact hroot rfl
  · exact hid (hids ▸ hmem)

theorem allows_serve {i : Nat} {c : Client} (hc : t.clients[i]? = some c)
    (hnamed : c.outgoingId ∈ t.calls.map (·.id)) (service : String) (into : Storage) :
    t.Allows h root (.serve i service into) := by
  intro d hd
  obtain rfl := Option.some.inj (hc.symm.trans hd)
  exact hnamed

/-- A call from the root request. -/
def called (h : Harness σ) (x : σ) : Tree σ :=
  (blank x).run h [.create 0 site "1", .prepare 0]

theorem reached_called (h : Harness σ) (x : σ) : Reached h request (called h x) := by
  simp only [called, run, List.foldl_cons, List.foldl_nil]
  refine .step (.step (reached_blank h x) ?_) (allows_prepare fun _ _ p hp => ?_)
  · exact allows_create [] rfl (by decide) (by decide) (fun _ => rfl) _ _
  · exact absurd hp List.not_mem_nil

/-- A tree with that call, which a client has made. -/
structure HasCalled (t : Tree σ) (c : Client) : Prop where
  storages : t.storages = [request]
  clients : t.clients = [c]
  id : c.outgoingId = "1"
  calls : t.calls = [⟨"a", "r", "1", "V1-[]-[a]-[b,m,[]]-[f,1]-[,]",
    [("V1-[]-[a]-[b,m,[]]-[f,1]-[,]", 1)]⟩]
  lacks : ∀ service id, id ≠ "r" → t.world.state.index? service id = none

section

variable {asks first : Bool} {source : Source σ} {x x' : σ}

/-- The greeting of the first call changes nothing but the source. -/
theorem called_eq (hgreet : (sample asks source).greeting "a" ⟨.empty, x⟩ =
    .ok (first, ⟨.empty, x'⟩)) :
    called (sample asks source) x = called (sample false source) x' := by
  have hover : State.empty.startOver first "a" = .empty := by
    cases first <;> rfl
  let c : Client := .make site request.snapshot "1"
  have hprepare : Client.prepare (sample asks source) ⟨c, ⟨.empty, x⟩⟩ =
      Client.prepare (sample false source) ⟨c, ⟨.empty, x'⟩⟩ := by
    rw [Client.prepare_of_created _ rfl, Client.prepare_of_created _ rfl]
    simp only [show c.callsite.service = "a" from rfl, hgreet, hover]
    rfl
  have hcalled : ∀ asks x, called (sample asks source) x =
      Tree.prepare (sample asks source) ⟨⟨.empty, x⟩, [request], [c], []⟩ 0 c := fun _ _ => rfl
  rw [hcalled, hcalled, Tree.prepare, Tree.prepare, hprepare]
  rfl

theorem exists_hasCalled (hgreet : (sample asks source).greeting "a" ⟨.empty, x⟩ =
    .ok (first, ⟨.empty, x'⟩)) : ∃ c, HasCalled (called (sample asks source) x) c := by
  rw [called_eq hgreet]
  refine ⟨_, by cbv, by cbv, by cbv, by cbv, fun service id hid => ?_⟩
  by_cases hservice : service = "a"
  · subst hservice
    cbv
    exact if_neg hid
  · cbv
    simp only [if_neg hservice]
    rfl

end

/-- A call is served, and a client is made for a call under it. -/
def inner (h : Harness σ) (t : Tree σ) (callee : String) (callsite : Callsite) : Tree σ :=
  t.run h [.serve 0 callee .empty, .create 1 callsite "2"]

section

variable {c : Client} (ht : HasCalled t c) (callee : String) (callsite : Callsite)

include ht

theorem HasCalled.inner_eq : inner h t callee callsite = { t.serve h c callee .empty with
    clients := [c, .make callsite (c.deliver h callee .empty t.world).storage.snapshot "2"] } := by
  simp [inner, run, step, serve, ht.clients, ht.storages]

theorem HasCalled.reached_inner (hreached : Reached h request t) :
    Reached h request (inner h t callee callsite) := by
  have hc : t.clients[0]? = some c := by
    rw [ht.clients]
    rfl
  have hserve : t.step h (.serve 0 callee .empty) = t.serve h c callee .empty := by
    simp only [step, hc]
  simp only [inner, run, List.foldl_cons, List.foldl_nil]
  refine .step (.step hreached (allows_serve hc ?_ callee .empty)) ?_
  · simp [ht.calls, ht.id]
  · rw [hserve]
    refine allows_create ["1"] ?_ (by decide) (by decide) (fun service => ?_) 1 callsite
    · simp [ids, serve, ht.clients, ht.id]
    · rw [serve, (c.deliver_spec h callee .empty _).1]
      exact ht.lacks service "2" (by decide)

/-- The client for the call under it makes its call from the request of the first one. -/
theorem HasCalled.exists_client_inner : ∃ d, (inner h t callee callsite).clients[1]? = some d ∧
    d.phase = .created ∧ d.callsite = callsite ∧ d.requestId = "1" := by
  rw [ht.inner_eq]
  exact ⟨_, rfl, rfl, rfl, (c.deliver_spec h callee .empty t.world).2.trans ht.id⟩

theorem HasCalled.calls_inner : (inner h t callee callsite).calls = t.calls := by
  rw [ht.inner_eq]
  rfl

end

/-- A harness that looks up an explorer. -/
def exploring (asks : Bool) : Harness (Option Explorer) :=
  sample asks Source.explorer.installed

/-- The call under a harness with an explorer in its first execution. -/
def explored (asks : Bool) : Tree (Option Explorer) :=
  called (exploring asks) (some (.start none false))

theorem exists_hasCalled_explored (asks : Bool) : ∃ c, HasCalled (explored asks) c := by
  cases asks <;> exact exists_hasCalled rfl

/-- A client for a call of another service under the first one. -/
def nested : Tree (Option Explorer) :=
  inner (exploring true) (explored true) "b" { site with service := "b" }

theorem nodup_names_iff_nested :
    ((exploring true).consults = true → (exploring true).source.KeepsArrivals) ∧
      Reached (exploring true) request nested ∧
      (nested.names.Nodup ↔
        Call.KeysTellServices nested.calls ∧ ∀ p q e, ¬ Call.Folds nested.calls p q e) ∧
      ∃ c, nested.clients[1]? = some c ∧ c.phase = .created ∧
        nested.Allows (exploring true) request (.prepare 1) ∧
        (∃ r, (exploring true).greeting c.callsite.service nested.world = .ok r) ∧
        nested.HasRoom (exploring true) request c ∧
        ∃ named : Index, (nested.step (exploring true) (.prepare 1)).calls =
          nested.calls ++ [.ofClient (exploring true) { c with index := named }] := by
  have hkeeps : (exploring true).consults = true → (exploring true).source.KeepsArrivals :=
    fun _ => Source.keepsArrivals_explorer.installed
  obtain ⟨d, ht⟩ := exists_hasCalled_explored true
  have hreached : Reached (exploring true) request nested :=
    ht.reached_inner "b" _ (reached_called _ _)
  obtain ⟨c, hc, hphase, hsite, hrequest⟩ :=
    ht.exists_client_inner (h := exploring true) "b" { site with service := "b" }
  have hcalls : nested.calls = _ := (ht.calls_inner "b" { site with service := "b" }).trans ht.calls
  have hallows : nested.Allows (exploring true) request (.prepare 1) := by
    refine allows_prepare fun c' hc' p hp => ?_
    obtain rfl := Option.some.inj (hc.symm.trans hc')
    rw [hcalls, List.mem_singleton] at hp
    simp [hp, hsite]
  have hroom : nested.HasRoom (exploring true) request c := by
    intro u hu
    rw [hcalls, hrequest] at hu
    rw [hcalls, hsite, hrequest]
    rcases hu with ⟨hroot, -⟩ | ⟨p, hp, -, rfl⟩
    · exact absurd hroot (by decide)
    · obtain rfl := List.mem_singleton.1 hp
      cbv
  have hgreet : ∃ r, (exploring true).greeting c.callsite.service nested.world = .ok r := by
    have hsome : nested.world.source.isSome = true := by decide +kernel
    obtain ⟨x, hx⟩ := Option.isSome_iff_exists.1 hsome
    rw [Harness.greeting, hx]
    exact ⟨_, rfl⟩
  obtain ⟨hiff, hcall⟩ := nodup_names_iff hkeeps hreached
  exact ⟨hkeeps, hreached, hiff, c, hc, hphase, hallows, hgreet, hroom,
    hcall 1 c hc hphase hallows hgreet hroom⟩

/-- The callsite of the first call is called again beside it. -/
def repeated : Tree (Option Explorer) :=
  (inner (exploring false) (explored false) "a" site).run (exploring false)
    [.create 0 site "3", .prepare 2]

/-- Then it is called under the first call. -/
def folded : Tree (Option Explorer) := repeated.step (exploring false) (.prepare 1)

/-- The client for the call under the first one. -/
def below : Client :=
  let incoming : Context :=
    { requestId := some "1", clock := some "\x7b\"a\":1\x7d", originClock := some "\x7b\x7d"
      index := some "[[\"V1-[]-[a]-[b,m,[]]-[f,1]-[,]\", 1]]" }
  .make site incoming "2"

theorem reached_folded : Reached (exploring false) request folded := by
  obtain ⟨c, ht⟩ := exists_hasCalled_explored false
  simp only [folded, repeated, run, List.foldl_cons, List.foldl_nil]
  refine .step (.step (.step (ht.reached_inner "a" site (reached_called _ _)) ?_)
    (allows_prepare_of_silent rfl 2)) (allows_prepare_of_silent rfl 1)
  refine allows_create ["1", "2"] ?_ (by decide) (by decide) (fun service => ?_) _ _
  · rw [ids, ht.inner_eq]
    exact congrArg (fun id => [id, "2"]) ht.id
  · rw [ht.inner_eq, serve, (c.deliver_spec _ "a" .empty _).1]
    exact ht.lacks service "3" (by decide)

/-- The indexes in the state have a number left for it. -/
theorem named_below : ∃ named s, named.trail = [("V1-[]-[a]-[b,m,[]]-[f,1]-[,]", 2)] ∧
    below.nameIn (exploring false) (below.arrive repeated.world.state).2 = (.ok named, s) := by
  have hindex : below.incomingIndex = .ofTrail [("V1-[]-[a]-[b,m,[]]-[f,1]-[,]", 1)] := by
    cbv
  have hstate : repeated.world.state.index? below.callsite.service below.requestId = none := by
    cbv
  have hfst := below.nameIn_fst (exploring false) (below.arrive repeated.world.state).2
  rw [Client.index?_arrive, if_pos ⟨rfl, rfl⟩, hstate, hindex, Option.getD_none,
    Option.getD_some] at hfst
  obtain ⟨named, hnamed, htrail⟩ : ∃ named, (below.nameFrom (exploring false)
      (.ofTrail [("V1-[]-[a]-[b,m,[]]-[f,1]-[,]", 1)])).1 = .ok named ∧
      named.trail = [("V1-[]-[a]-[b,m,[]]-[f,1]-[,]", 2)] :=
    ⟨_, by cbv, by cbv⟩
  exact ⟨named, _, htrail, Prod.ext (hfst.trans hnamed) rfl⟩

theorem names_folded : folded.names = ["[[\"V1-[]-[a]-[b,m,[]]-[f,1]-[,]\", 1]]",
    "[[\"V1-[]-[a]-[b,m,[]]-[f,1]-[,]\", 2]]", "[[\"V1-[]-[a]-[b,m,[]]-[f,1]-[,]\", 2]]"] := by
  obtain ⟨named, s, htrail, hname⟩ := named_below
  have hclient : repeated.clients[1]? = some below := by
    cbv
  have hnames : repeated.names = ["[[\"V1-[]-[a]-[b,m,[]]-[f,1]-[,]\", 1]]",
      "[[\"V1-[]-[a]-[b,m,[]]-[f,1]-[,]\", 2]]"] := by
    cbv
  have hrun := Client.prepare_of_silent (h := exploring false) rfl (c := below) rfl hname
  have hcalls : folded.calls = repeated.calls ++
      [.ofClient (exploring false) { below with index := named }] := by
    rw [folded, step, hclient]
    simp only [Tree.prepare, hrun]
    rfl
  have hlast : (Call.ofClient (exploring false) { below with index := named }).trail.text =
      "[[\"V1-[]-[a]-[b,m,[]]-[f,1]-[,]\", 2]]" := by
    rw [Call.ofClient, htrail]
    cbv
  rw [names, hcalls, List.map_append, ← names, hnames, List.map_singleton, hlast]
  rfl

/-- Two services whose calls from the root request have the same key. -/
def shared : Tree (Option Explorer) := (blank none).run (exploring false)
  [.create 0 { site with metadata := "x]-[y" } "1",
    .create 0 { site with metadata := "x", service := "y]-[a" } "2", .prepare 0, .prepare 1]

/-- A harness that asks for the index of a call that arrives, and is given the empty one. -/
def misnaming : Harness Unit :=
  sample true (renamer "[]")

/-- The callsite of the first call is called under it, once the first one has lost its name. -/
def renamed : Tree Unit :=
  (inner misnaming (called misnaming ()) "a" site).step misnaming (.prepare 1)

theorem reached_shared : Reached (exploring false) request shared := by
  simp only [shared, run, List.foldl_cons, List.foldl_nil]
  refine .step (.step (.step (.step (reached_blank _ _) ?_) ?_) (allows_prepare_of_silent rfl 0))
    (allows_prepare_of_silent rfl 1)
  · exact allows_create [] rfl (by decide) (by decide) (fun _ => rfl) _ _
  · exact allows_create ["1"] rfl (by decide) (by decide) (fun _ => rfl) _ _

theorem reached_renamed : Reached misnaming request renamed := by
  obtain ⟨c, ht⟩ : ∃ c, HasCalled (called misnaming ()) c := exists_hasCalled rfl
  refine (ht.reached_inner "a" site (reached_called _ _)).step ?_
  -- the stub never has a service start over
  intro c _ w hgreet
  cases hgreet

theorem names_shared : shared.names = ["[[\"V1-[x]-[y]-[a]-[b,m,[]]-[f,1]-[,]\", 1]]",
    "[[\"V1-[x]-[y]-[a]-[b,m,[]]-[f,1]-[,]\", 1]]"] := by
  cbv

theorem names_renamed : renamed.names = ["[[\"V1-[]-[a]-[b,m,[]]-[f,1]-[,]\", 1]]",
    "[[\"V1-[]-[a]-[b,m,[]]-[f,1]-[,]\", 1]]"] := by
  cbv

/-- Three trees in which two calls have the same index: where a call is repeated beside and under
itself, where two services share a key, and where a source renames a call that arrives. -/
theorem names_collide :
    (Reached (exploring false) request folded ∧ ¬ folded.names.Nodup) ∧
      (Reached (exploring false) request shared ∧ ¬ shared.names.Nodup) ∧
      Reached misnaming request renamed ∧ ¬ renamed.names.Nodup := by
  refine ⟨⟨reached_folded, ?_⟩, ⟨reached_shared, ?_⟩, reached_renamed, ?_⟩
  · rw [names_folded]
    decide
  · rw [names_shared]
    decide
  · rw [names_renamed]
    decide

end Tree

end Faultline
