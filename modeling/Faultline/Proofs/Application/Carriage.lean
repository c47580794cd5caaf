import Faultline.Proofs.Application.Provenance
import Faultline.Proofs.Clock
import Faultline.Proofs.Server
import Faultline.Proofs.Traffic.Lockstep

/-!
# Clocks on their way

A clock that was given to a call is carried unchanged through headers and storages to the calls that
are made while it is served, and an application keeps it: what comes with a request of known
provenance is the clock of the call that made it (`Placed`).
-/

namespace Faultline

variable {σ : Type}

theorem Client.carried_outgoing (c : Client) :
    (Context.ofHeaders c.outgoing.toHeaders).carried = c.clock := by
  rw [Context.carried, Context.clock_ofHeaders]
  exact Clock.parse_text c.clock

/-- The storage holds the clock that came with the call, whatever the source answers. -/
theorem Server.carried_receive (h : Harness σ) (r : Reception σ) :
    (after (receive h) r).storage.context.carried = r.server.context.carried ∧
      (after (receive h) r).server.context.carried = r.server.context.carried := by
  have hstored : (r.server.store r.storage).context.carried = r.server.context.carried :=
    Clock.parse_text r.server.context.carried
  obtain ⟨index, source, hafter⟩ := exists_after_receive h r
  rw [hafter]
  exact ⟨hstored, rfl⟩

/-! ### Lists that change at one place -/

theorem getElem?_append_of_some {α : Type} {l r : List α} {i : Nat} {x : α}
    (hx : l[i]? = some x) : (l ++ r)[i]? = some x :=
  (List.getElem?_append_left (List.getElem?_eq_some_iff.1 hx).1).trans hx

/-- Everything is still there, up to a relation that the replacement satisfies. -/
theorem exists_of_set {α : Type} {R : α → α → Prop} (hrefl : ∀ x, R x x) {l : List α} {i j : Nat}
    {x y z : α} (hx : l[i]? = some x) (hxy : R x y) (hz : l[j]? = some z) :
    ∃ z', (l.set i y)[j]? = some z' ∧ R z z' := by
  by_cases hij : i = j
  · subst hij
    obtain rfl := Option.some.inj (hx.symm.trans hz)
    exact ⟨y, List.getElem?_set_self (List.getElem?_eq_some_iff.1 hx).1, hxy⟩
  · exact ⟨z, (List.getElem?_set_ne hij).trans hz, hrefl z⟩

theorem exists_of_forall₂ {α β : Type} {R : α → β → Prop} {as : List α} {bs : List β}
    (hs : List.Forall₂ R as bs) {i : Nat} {b : β} (hb : bs[i]? = some b) :
    ∃ a, as[i]? = some a ∧ R a b := by
  induction hs generalizing i with
  | nil => cases hb
  | cons ha hs ih =>
      cases i with
      | zero =>
          obtain rfl := Option.some.inj hb
          exact ⟨_, rfl, ha⟩
      | succ i => exact ih hb

/-- The second of two lists in step changes at one place. -/
theorem forall₂_set_right {α β : Type} {R : α → β → Prop} {as : List α} {bs : List β}
    (hs : List.Forall₂ R as bs) {i : Nat} {b b' : β} (hb : bs[i]? = some b)
    (hR : ∀ a, R a b → R a b') : List.Forall₂ R as (bs.set i b') := by
  obtain ⟨a, ha, hab⟩ := exists_of_forall₂ hs hb
  obtain ⟨hi, rfl⟩ := List.getElem?_eq_some_iff.1 ha
  rw [← List.set_getElem_self hi]
  exact Traffic.forall₂_set hs i (hR _ hab)

/-! ### Applications go on -/

namespace Application

variable {h : Harness σ} {ids : Nat → String} {a a' : Application σ} {p : Provenance}

/-- The client's call was prepared and got the clock. -/
def Bears (a : Application σ) (i : Nat) (t : Clock) : Prop :=
  ∃ c, a.clients[i]? = some c ∧ c.phase ≠ .created ∧ c.clock = t

/-- The server's call came with the clock. -/
def Arrives (a : Application σ) (n : Nat) (t : Clock) : Prop :=
  ∃ server, a.servers[n]? = some server ∧ server.context.carried = t

/-- A request of an origin comes with the clock. -/
def Comes (a : Application σ) (o : Origin) (t : Clock) : Prop :=
  a.Arrives o.server t ∧ ∀ i ∈ o.caller, a.Bears i t

/-- Clients and servers later on. -/
structure Later (a a' : Application σ) : Prop where
  clients : ∀ (i : Nat) (c : Client), a.clients[i]? = some c →
    ∃ c', a'.clients[i]? = some c' ∧ c.Later c'
  servers : ∀ (n : Nat) (server : Server), a.servers[n]? = some server →
    ∃ server', a'.servers[n]? = some server' ∧ server'.context.carried = server.context.carried

namespace Later

theorem bears (hl : a.Later a') {i : Nat} {t : Clock} (ht : a.Bears i t) : a'.Bears i t := by
  obtain ⟨c, hc, hphase, rfl⟩ := ht
  obtain ⟨c', hc', hlater⟩ := hl.clients i c hc
  obtain ⟨hphase', hclock⟩ := hlater.clock hphase
  exact ⟨c', hc', hphase', hclock⟩

theorem arrives (hl : a.Later a') {n : Nat} {t : Clock} (ht : a.Arrives n t) :
    a'.Arrives n t := by
  obtain ⟨server, hserver, rfl⟩ := ht
  exact hl.servers n server hserver

theorem comes (hl : a.Later a') {o : Origin} {t : Clock} (ht : a.Comes o t) : a'.Comes o t :=
  ⟨hl.arrives ht.1, fun i hi => hl.bears (ht.2 i hi)⟩

end Later

theorem later_of_eq (hclients : a'.clients = a.clients) (hservers : a'.servers = a.servers) :
    a.Later a' where
  clients _ c hc := ⟨c, hclients ▸ hc, .refl c⟩
  servers _ server hserver := ⟨server, hservers ▸ hserver, rfl⟩

theorem later_operate (h : Harness σ) (a : Application σ) (i : Nat) (op : Operation) :
    a.Later (a.operate h i op) := by
  unfold operate
  cases hc : a.clients[i]? with
  | none => exact later_of_eq rfl rfl
  | some c =>
      have hlater := op.later_act h ⟨c, a.world⟩
      exact ⟨fun j d hd => exists_of_set Client.Later.refl hc hlater hd,
        fun n server hserver => ⟨server, hserver, rfl⟩⟩

theorem later_receive (h : Harness σ) (a : Application σ) (j k : Nat) :
    a.Later (a.receive h j k) := by
  unfold receive
  split
  · next server storage hserver hstorage =>
    have hkept := (Server.carried_receive h ⟨server, storage, a.world⟩).2
    refine ⟨fun i c hc => ⟨c, hc, .refl c⟩, fun n server' hserver' => ?_⟩
    exact exists_of_set (R := fun s s' => s'.context.carried = s.context.carried)
      (fun _ => rfl) hserver hkept hserver'
  · exact later_of_eq rfl rfl

theorem later_step (h : Harness σ) (ids : Nat → String) (a : Application σ) (m : Move) :
    a.Later (a.step h ids m) := by
  cases m with
  | keep s => exact later_of_eq rfl rfl
  | edit k f => exact later_of_eq rfl rfl
  | create k callsite requestId preliminary transport =>
      simp only [step]
      split
      · exact ⟨fun i c hc => ⟨c, getElem?_append_of_some hc, .refl c⟩,
          fun n server hserver => ⟨server, hserver, rfl⟩⟩
      · exact later_of_eq rfl rfl
  | operate i op => exact later_operate h a i op
  | accept service c =>
      exact ⟨fun i c hc => ⟨c, hc, .refl c⟩,
        fun n server hserver => ⟨server, getElem?_append_of_some hserver, rfl⟩⟩
  | deliver i service =>
      simp only [step]
      split
      · exact ⟨fun i c hc => ⟨c, hc, .refl c⟩,
          fun n server hserver => ⟨server, getElem?_append_of_some hserver, rfl⟩⟩
      · exact later_of_eq rfl rfl
  | receive j k => exact later_receive h a j k

/-! ### Where clocks are -/

/-- The clocks of an application come from where the provenance says, which is known of the clients
and servers of `b`. -/
structure Placed (b a : Application σ) (p : Provenance) : Prop where
  servers : List.Forall₂ (fun caller server => ∀ i ∈ caller, b.Bears i server.context.carried)
    p.servers a.servers
  storages : List.Forall₂ (fun origin s => ∀ o ∈ origin, b.Comes o s.context.carried)
    p.storages a.storages
  clients : List.Forall₂ (fun origin c => ∀ o ∈ origin, b.Comes o c.incoming.carried)
    p.clients a.clients

namespace Placed

variable {b b' : Application σ}

/-- What is known stays known. -/
theorem later (hp : b.Placed a p) (hl : b.Later b') : b'.Placed a p where
  servers := hp.servers.imp fun _ _ h i hi => hl.bears (h i hi)
  storages := hp.storages.imp fun _ _ h o ho => hl.comes (h o ho)
  clients := hp.clients.imp fun _ _ h o ho => hl.comes (h o ho)

theorem edit (hp : b.Placed a p) (h : Harness σ) (ids : Nat → String) (k : Nat)
    (f : Storage → Storage) : b.Placed (a.step h ids (.edit k f)) (p.step h a (.edit k f)) := by
  have hmodify := List.modify_eq_set_getElem? f k a.storages
  simp only [step, Provenance.step, hmodify]
  cases hs : a.storages[k]? with
  | none => exact hp
  | some s =>
      dsimp only
      split
      · next hclock =>
        refine ⟨hp.servers, forall₂_set_right hp.storages hs fun origin horigin => ?_, hp.clients⟩
        rw [Context.carried, hclock]
        exact horigin
      · exact ⟨hp.servers, Traffic.forall₂_set hp.storages k (by simp), hp.clients⟩

theorem create (hp : b.Placed a p) (h : Harness σ) (ids : Nat → String) (k : Nat)
    (callsite : Callsite) (requestId preliminary transport : Option String) :
    b.Placed (a.step h ids (.create k callsite requestId preliminary transport))
      (p.step h a (.create k callsite requestId preliminary transport)) := by
  simp only [step, Provenance.step]
  cases hs : a.storages[k]? with
  | none => exact hp
  | some s =>
      obtain ⟨origin, horigin, hs⟩ := exists_of_forall₂ hp.storages hs
      refine ⟨hp.servers, hp.storages, List.rel_append hp.clients (.cons ?_ .nil)⟩
      rw [horigin]
      exact hs

theorem operate (hp : b.Placed a p) (h : Harness σ) (ids : Nat → String) (i : Nat)
    (op : Operation) : b.Placed (a.step h ids (.operate i op)) (p.step h a (.operate i op)) := by
  simp only [step, Application.operate, Provenance.step]
  cases hc : a.clients[i]? with
  | none => exact hp
  | some c =>
      refine ⟨hp.servers, hp.storages, forall₂_set_right hp.clients hc fun origin horigin => ?_⟩
      rw [(op.later_act h ⟨c, a.world⟩).incoming]
      exact horigin

/-- What is carried away is the clock that the call got. -/
theorem deliver (hp : b.Placed a p)
    (hprepared : ∀ i c, p.hasPrepared i = true → a.clients[i]? = some c → b.Bears i c.clock)
    (h : Harness σ) (ids : Nat → String) (i : Nat) (service : String) :
    b.Placed (a.step h ids (.deliver i service)) (p.step h a (.deliver i service)) := by
  simp only [step, Provenance.step]
  cases hc : a.clients[i]? with
  | none => exact hp
  | some c =>
      refine ⟨List.rel_append hp.servers (.cons (fun j hj => ?_) .nil), hp.storages, hp.clients⟩
      rw [Client.carried_outgoing]
      split at hj
      · next hi =>
        obtain rfl : i = j := Option.some.inj hj
        exact hprepared i c hi hc
      · cases hj

theorem receive (hp : b.Placed a p)
    (harrived : ∀ n server, a.servers[n]? = some server → b.Arrives n server.context.carried)
    (h : Harness σ) (ids : Nat → String) (j k : Nat) :
    b.Placed (a.step h ids (.receive j k)) (p.step h a (.receive j k)) := by
  simp only [step, Application.receive, Provenance.step]
  cases hserver : a.servers[j]? with
  | none => exact hp
  | some server =>
      cases hstorage : a.storages[k]? with
      | none => exact hp
      | some storage =>
          obtain ⟨hstored, hkept⟩ := Server.carried_receive h ⟨server, storage, a.world⟩
          obtain ⟨caller, hcaller, hknown⟩ := exists_of_forall₂ hp.servers hserver
          refine ⟨forall₂_set_right hp.servers hserver fun caller' hcaller' => ?_,
            Traffic.forall₂_set hp.storages k fun o ho => ?_, hp.clients⟩
          · rw [hkept]
            exact hcaller'
          · obtain rfl : _ = o := Option.some.inj ho
            rw [hstored, hcaller]
            exact ⟨harrived j server hserver, hknown⟩

theorem step (hp : b.Placed a p)
    (hprepared : ∀ i c, p.hasPrepared i = true → a.clients[i]? = some c → b.Bears i c.clock)
    (harrived : ∀ n server, a.servers[n]? = some server → b.Arrives n server.context.carried)
    (h : Harness σ) (ids : Nat → String) (m : Move) :
    b.Placed (a.step h ids m) (p.step h a m) := by
  cases m with
  | keep s => exact ⟨hp.servers, List.rel_append hp.storages (.cons (by simp) .nil), hp.clients⟩
  | edit k f => exact hp.edit h ids k f
  | create k callsite requestId preliminary transport =>
      exact hp.create h ids k callsite requestId preliminary transport
  | operate i op => exact hp.operate h ids i op
  | accept service c =>
      exact ⟨List.rel_append hp.servers (.cons (by simp) .nil), hp.storages, hp.clients⟩
  | deliver i service => exact hp.deliver hprepared h ids i service
  | receive j k => exact hp.receive harrived h ids j k

end Placed

end Application

end Faultline
