import Faultline.Proofs.Counterexample
import Faultline.Proofs.Traffic.Explored
import Faultline.Source.Remote

/-!
# Decisions on the wire

A fault is read back from the object that it is written as, and other members of that object do
not disturb it (`Fault.ofObject_putAll`); a decision is read back from its body
(`Decision.ofJson_toJson`).  A client can therefore not tell an explorer that it asks in process
from a control plane that sends it the explorer's decisions (`Decision.survives_wire`).
-/

namespace Faultline

/-- An object with members put in, one after the other. -/
def Json.putAll (j : Json) (members : List (String × Json)) : Json :=
  members.foldl (fun j m => j.put m.1 m.2) j

/-- Members of other names do not hide a member. -/
theorem Json.get?_putAll_of_ne {ms extra : List (String × Json)} {k : String}
    (h : ∀ m ∈ extra, m.1 ≠ k) : ((obj ms).putAll extra).get? k = (obj ms).get? k := by
  induction extra generalizing ms with
  | nil => rfl
  | cons m extra ih =>
      obtain ⟨hm, hextra⟩ := List.forall_mem_cons.1 h
      have hput : (obj ms).putAll (m :: extra) =
          (obj (Entries.insert m.1 m.2 ms)).putAll extra := rfl
      rw [hput, ih hextra]
      exact (get?_put_obj m.1 k m.2 ms).trans (if_neg hm.symm)

/-! ### Faults and decisions -/

/-- The fault in its object, whatever else is put there under names that are no kinds. -/
theorem Fault.ofObject_putAll (f : Fault) {extra : List (String × Json)}
    (h : ∀ m ∈ extra, m.1 ∉ kinds) : ofObject (f.toObject.putAll extra) = .ok (some f) := by
  apply ofObject_of_get? f
  intro k hk
  have hne : ∀ m ∈ extra, m.1 ≠ k := by
    rintro m hm rfl
    exact h m hm hk
  rw [toObject, Json.get?_putAll_of_ne hne]
  rfl

/-- Without a kind there is no fault in an object. -/
theorem Fault.ofObject_of_no_kind {j : Json} (h : ∀ k ∈ kinds, j.get? k = none) :
    ofObject j = .ok none := by
  have hfind : kinds.findSome? (fun k => (j.get? k).map (k, ·)) = none := by
    rw [List.findSome?_eq_none_iff]
    intro k hk
    rw [h k hk]
    rfl
  rw [ofObject, hfind]

namespace Decision

/-- The name of the id is no kind of fault. -/
theorem ne_idName {k : String} (hk : k ∈ Fault.kinds) : k ≠ "generated_id" := by
  rintro rfl
  exact absurd hk (by decide)

/-- A body is read as its id and its fault. -/
theorem ofJson_eq {body : Json} {id : Int64} {fault : Option Fault}
    (hid : body.get? "generated_id" = some (.ofInt64 id))
    (hfault : Fault.ofObject body = .ok fault) : ofJson body = .ok ⟨id, fault⟩ := by
  simp only [ofJson, hid, Option.bind_some, Json.int64?_ofInt64, hfault]
  rfl

theorem ofJson_toJson (d : Decision) : ofJson d.toJson = .ok d := by
  obtain ⟨id, fault⟩ := d
  cases fault with
  | none =>
      refine ofJson_eq (by simp [toJson, Json.emptyObject])
        (Fault.ofObject_of_no_kind fun k hk => ?_)
      simp only [toJson, Json.emptyObject, Json.get?_put_obj, if_neg (ne_idName hk)]
      rfl
  | some f =>
      have hextra : ∀ m ∈ [("generated_id", Json.ofInt64 id)], m.1 ∉ Fault.kinds := by
        rintro m hm hkind
        obtain rfl := List.mem_singleton.1 hm
        exact ne_idName hkind rfl
      exact ofJson_eq (by simp [toJson, Fault.toObject]) (f.ofObject_putAll hextra)

end Decision

/-! ### The control plane -/

section

variable {τ : Type}

/-- A channel answers a request with a decision: what comes back is some text of its body. -/
def Channel.Decides (c : Channel τ) (r : Request) (d : Decision) (t t' : τ) : Prop :=
  ∃ body, c.send r t = (.ok ⟨200, body⟩, t') ∧ Json.parse? body = some d.toJson

/-- A control plane's decision is read as it was made. -/
theorem Source.register_remote {base : String} {c : Channel τ} {record : Json} {d : Decision}
    {t t' : τ} (h : c.Decides (Remote.registration base record) d t t') :
    (remote base c).register record t = .ok (.ok d, t') := by
  obtain ⟨body, hsend, hparse⟩ := h
  have hread : Remote.readDecision (Remote.registration base record) body = .ok d := by
    simp only [Remote.readDecision, Remote.readBody, hparse]
    exact d.ofJson_toJson
  simp only [remote, Remote.exchange, hsend, Remote.bodyOf, if_true]
  rw [← hread]
  rfl

/-- A client that asks an explorer in process and one that asks a control plane with the same
decision are registered alike. -/
theorem Client.register_alike {h : Harness Explorer} (hh : h.Explores) {h' : Harness τ}
    {base : String} {c : Channel τ} (hsource : h'.source = .remote base c)
    (hconsults : h'.consults = true) {s : Session Explorer}
    (hs : s.client.phase.canBecome .beforeInvoked = true) {s' : Session τ}
    (hclient : s'.client = s.client) {d : Decision} {x : Explorer} {t : τ}
    (hx : s.world.source.register s.client.invocationRecord = .ok (d, x))
    (ht : c.Decides (Source.Remote.registration base s.client.invocationRecord) d
      s'.world.source t) :
    ∃ client : Client, client.generatedId = d.generatedId ∧ client.fault = d.fault ∧
      register h s = .ok () ⟨client, { s.world with source := x }⟩ ∧
      register h' s' = .ok () ⟨client, { s'.world with source := t }⟩ := by
  refine ⟨{ s.client with
    phase := .beforeInvoked, generatedId := d.generatedId, fault := d.fault }, rfl, rfl, ?_, ?_⟩
  · rw [register_of_consults hh.consults hs, hh.source]
    simp only [Source.explorer, hx, Source.replyOf]
  · rw [register_of_consults hconsults (hclient ▸ hs), hsource, hclient,
      Source.register_remote ht]

end

/-- A fault is read back from its object, whatever members of other names are put beside it, and a
decision from its body.  An explorer decides about every call of a client, and a control plane that
answers with that decision leaves the client with the same id and the same fault. -/
theorem Decision.survives_wire :
    (∀ (f : Fault) (extra : List (String × Json)), (∀ m ∈ extra, m.1 ∉ Fault.kinds) →
      Fault.ofObject (f.toObject.putAll extra) = .ok (some f)) ∧
    (∀ d : Decision, ofJson d.toJson = .ok d) ∧
    ∀ (h : Harness Explorer) (s : Session Explorer), h.Explores →
      s.client.phase.canBecome .beforeInvoked = true →
      ∃ d x, s.world.source.register s.client.invocationRecord = .ok (d, x) ∧
        ∀ (τ : Type) (h' : Harness τ) (base : String) (c : Channel τ) (s' : Session τ) (t : τ),
          h'.source = .remote base c → h'.consults = true → s'.client = s.client →
          c.Decides (Source.Remote.registration base s.client.invocationRecord) d
            s'.world.source t →
          ∃ client : Client, client.generatedId = d.generatedId ∧ client.fault = d.fault ∧
            Client.register h s = .ok () ⟨client, { s.world with source := x }⟩ ∧
            Client.register h' s' = .ok () ⟨client, { s'.world with source := t }⟩ := by
  refine ⟨fun f extra hextra => f.ofObject_putAll hextra, ofJson_toJson, fun h s hh hs => ?_⟩
  obtain ⟨d, x, hx⟩ := s.world.source.exists_register s.client
  exact ⟨d, x, hx, fun τ h' base c s' t hsource hconsults hclient ht =>
    Client.register_alike hh hsource hconsults hs hclient hx ht⟩

namespace Decision

/-- An exception with the name of another kind among its details. -/
def namedFault : Fault :=
  .exception ⟨"E", .ofList [("byzantine_fault", .null), ("sleep", .str "5")]⟩

def namedDecision : Decision := ⟨1, some namedFault⟩

/-- An explorer with that fault for one call. -/
def decidingExplorer : Explorer :=
  let p : Plan := ⟨[([("k", 1)], namedFault)]⟩
  { Explorer.start none false with plan := some p, current := some (.ofPlan p) }

/-- The call. -/
def preparedClient : Client :=
  { Client.make ⟨"a", "b", "m", .empty, "f", 1, ""⟩ {} "" with
    phase := .prepared, index := .ofTrail [("k", 1)] }

/-- A control plane that has one answer for everything. -/
def oneAnswer (d : Decision) : Channel Unit :=
  ⟨fun _ t => (.ok ⟨200, d.toJson.compact⟩, t)⟩

theorem survives_wire_namedDecision :
    Fault.ofObject ((Fault.failure .null).toObject.putAll
      [("execution_index", .str "[]"), ("generated_id", .ofInt64 (-1))]) =
        .ok (some (.failure .null)) ∧
    ofJson namedDecision.toJson = .ok namedDecision ∧
    ∃ client : Client, client.generatedId = 1 ∧ client.fault = namedDecision.fault ∧
      client.forcedSleepMs = some 5 ∧
      (∃ w, Client.register ⟨{}, .explorer, none, .default⟩
        ⟨preparedClient, ⟨.empty, decidingExplorer⟩⟩ = .ok () ⟨client, w⟩) ∧
      ∃ w, Client.register ⟨{}, .remote "http://c/" (oneAnswer namedDecision), none, .default⟩
        ⟨preparedClient, ⟨.empty, ()⟩⟩ = .ok () ⟨client, w⟩ := by
  obtain ⟨hfault, hdecision, hclient⟩ := survives_wire
  refine ⟨hfault _ _ (by simp [Fault.kinds]), hdecision _, ?_⟩
  obtain ⟨d, x, hx, hremote⟩ := hclient ⟨{}, .explorer, none, .default⟩
    ⟨preparedClient, ⟨.empty, decidingExplorer⟩⟩ ⟨rfl, rfl⟩ rfl
  obtain rfl : namedDecision = d := by
    have hdecided : (decidingExplorer.register preparedClient.invocationRecord).toOption.map (·.1) =
        some namedDecision := by cbv
    rw [hx] at hdecided
    exact (Option.some.inj hdecided).symm
  obtain ⟨client, hid, hfault, hcore, hwire⟩ := hremote Unit
    ⟨{}, .remote "http://c/" (oneAnswer namedDecision), none, .default⟩ "http://c/" _
    ⟨preparedClient, ⟨.empty, ()⟩⟩ () rfl rfl rfl ⟨_, rfl, by cbv⟩
  have hsleep : client.forcedSleepMs = some 5 := by
    rw [Client.forcedSleepMs, hfault]
    cbv
  exact ⟨client, hid, hfault, hsleep, ⟨_, hcore⟩, ⟨_, hwire⟩⟩

end Decision

end Faultline
