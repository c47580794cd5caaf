import Faultline.Proofs.Application.Basic
import Faultline.Proofs.Dialogue
import Faultline.Proofs.Slot
import Mathlib.Logic.Relation

/-!
# Where requests come from

What is known of an application beside its state: which client made the call that a server
receives, which server's call filled a storage, and from which of these storages a client was made.
With the order in which the calls were prepared this says which call leads to which (`Leads`): no
clock is looked at.
-/

namespace Faultline

/-- Where a request comes from: the server that it came to, and the client that made it, unless
that one is elsewhere. -/
structure Origin where
  server : Nat
  caller : Option Nat
  deriving DecidableEq

/-- What happens to the clocks that are stored. -/
inductive Beat where
  | startedOver (service : String)
  /-- The call of the client numbered `i` is prepared; `origin` is where the request that the
  client serves comes from. -/
  | prepared (i : Nat) (service request : String) (origin : Option Origin)
  deriving DecidableEq

/-- The call was prepared, and its service has not started over since. -/
def Lasts (service request : String) (i : Nat) (beats : List Beat) : Prop :=
  ∃ front origin back, beats = front ++ .prepared i service request origin :: back ∧
    .startedOver service ∉ back

/-- One call leads straight to another: it is an earlier call of the same service for the same
request, or it is the one that is being served. -/
inductive Leads (beats : List Beat) (i j : Nat) : Prop
  | samePair {front back : List Beat} {service request : String} {origin : Option Origin} :
    beats = front ++ .prepared j service request origin :: back → Lasts service request i front →
    Leads beats i j
  | serving {service request : String} {server : Nat} :
    .prepared j service request (some ⟨server, some i⟩) ∈ beats → Leads beats i j

/-- The clock that a context carries; one that cannot be read counts as empty. -/
def Context.carried (c : Context) : Clock :=
  (c.clock.map Clock.parse).getD .empty

structure Provenance where
  /-- For each server, the client whose call it receives. -/
  servers : List (Option Nat)
  /-- For each storage, where its request comes from. -/
  storages : List (Option Origin)
  /-- For each client, where the request that it serves comes from. -/
  clients : List (Option Origin)
  beats : List Beat

/-- What an operation of the client numbered `i` does to the clocks that are stored. -/
def Operation.beats {σ : Type} (op : Operation) (h : Harness σ) (s : Session σ) (i : Nat)
    (origin : Option Origin) : List Beat :=
  match op with
  | .prepare =>
    if s.client.phase = .created then
      match h.greeting s.client.callsite.service s.world with
      | .ok (first, _) => (if first then [.startedOver s.client.callsite.service] else []) ++
          [.prepared i s.client.callsite.service s.client.requestId origin]
      | .error _ => []
    else []
  | _ => []

namespace Provenance

def start : Provenance := ⟨[], [], [], []⟩

/-- Whether the call of a client was prepared. -/
def hasPrepared (p : Provenance) (i : Nat) : Bool :=
  p.beats.any fun
    | .prepared j _ _ _ => j == i
    | .startedOver _ => false

variable {σ : Type}

/-- What a step of an application makes of it.  A call that is carried away before it was prepared
is nobody's, and a storage that gets another clock is no longer the server's. -/
def step (h : Harness σ) (a : Application σ) (p : Provenance) : Application.Move → Provenance
  | .keep _ => { p with storages := p.storages ++ [none] }
  | .edit k f =>
    match a.storages[k]? with
    | some s =>
      if (f s).context.clock = s.context.clock then p
      else { p with storages := p.storages.set k none }
    | none => p
  | .create k _ _ _ _ =>
    match a.storages[k]? with
    | some _ => { p with clients := p.clients ++ [p.storages[k]?.join] }
    | none => p
  | .operate i op =>
    match a.clients[i]? with
    | some c => { p with beats := p.beats ++ op.beats h ⟨c, a.world⟩ i p.clients[i]?.join }
    | none => p
  | .accept _ _ => { p with servers := p.servers ++ [none] }
  | .deliver i _ =>
    match a.clients[i]? with
    | some _ => { p with servers := p.servers ++ [if p.hasPrepared i then some i else none] }
    | none => p
  | .receive j k =>
    match a.servers[j]?, a.storages[k]? with
    | some _, some _ => { p with storages := p.storages.set k (some ⟨j, p.servers[j]?.join⟩) }
    | _, _ => p

/-- Only the operations of clients change what is stored. -/
theorem beats_step {h : Harness σ} {a : Application σ} {p : Provenance} {m : Application.Move}
    (hm : ∀ i op, m ≠ .operate i op) : (p.step h a m).beats = p.beats := by
  cases m with
  | operate i op => exact absurd rfl (hm i op)
  | _ =>
      simp only [step]
      repeat' split
      all_goals rfl

end Provenance

namespace Application

variable {σ : Type}

/-- The provenance behind a run. -/
def trace (h : Harness σ) (ids : Nat → String) (a : Application σ) (p : Provenance) :
    List Move → Provenance
  | [] => p
  | m :: moves => (a.step h ids m).trace h ids (p.step h a m) moves

/-- What happens to the stored clocks in a run from the start, in order. -/
def beats (h : Harness σ) (ids : Nat → String) (w : World σ) (moves : List Move) : List Beat :=
  ((start w).trace h ids .start moves).beats

end Application

/-! ### One more beat -/

theorem lasts_concat {beats : List Beat} {b : Beat} {service request : String} {i : Nat}
    (h : Lasts service request i (beats ++ [b])) :
    (∃ origin, b = .prepared i service request origin) ∨
      Lasts service request i beats ∧ b ≠ .startedOver service := by
  obtain ⟨front, origin, back, hsplit, hback⟩ := h
  rcases List.eq_nil_or_concat back with rfl | ⟨back, last, rfl⟩
  · obtain ⟨-, hb⟩ := List.append_inj' hsplit rfl
    exact .inl ⟨origin, by simpa using hb⟩
  · rw [List.concat_eq_append, ← List.cons_append, ← List.append_assoc] at hsplit
    obtain ⟨hbeats, hb⟩ := List.append_inj' hsplit rfl
    obtain rfl : b = last := by simpa using hb
    rw [List.concat_eq_append, List.mem_append, not_or, List.mem_singleton] at hback
    exact .inr ⟨⟨front, origin, back, hbeats, hback.1⟩, fun heq => hback.2 heq.symm⟩

/-- What leads to a call is settled when the call is prepared. -/
theorem leads_concat {beats : List Beat} {b : Beat} {i j : Nat} (h : Leads (beats ++ [b]) i j) :
    Leads beats i j ∨ ∃ service request origin, b = .prepared j service request origin ∧
      (Lasts service request i beats ∨ ∃ server, origin = some ⟨server, some i⟩) := by
  cases h with
  | @samePair front back service request origin hsplit hlasts =>
      rcases List.eq_nil_or_concat back with rfl | ⟨back, last, rfl⟩
      · obtain ⟨rfl, hb⟩ := List.append_inj' hsplit rfl
        exact .inr ⟨service, request, origin, by simpa using hb, .inl hlasts⟩
      · rw [List.concat_eq_append, ← List.cons_append, ← List.append_assoc] at hsplit
        exact .inl (.samePair (List.append_inj' hsplit rfl).1 hlasts)
  | @serving service request server hmem =>
      rcases List.mem_append.1 hmem with hmem | hmem
      · exact .inl (.serving hmem)
      · exact .inr ⟨service, request, _, (List.mem_singleton.1 hmem).symm, .inr ⟨server, rfl⟩⟩

/-! ### What a step leaves of the clients and servers -/

/-- A client later on: once its call is prepared, the clock stays. -/
structure Client.Later (c c' : Client) : Prop where
  incoming : c'.incoming = c.incoming
  clock : c.phase ≠ .created → c'.phase ≠ .created ∧ c'.clock = c.clock

theorem Client.Later.refl (c : Client) : c.Later c :=
  ⟨rfl, fun hphase => ⟨hphase, rfl⟩⟩

namespace Operation

variable {σ : Type} (h : Harness σ) (s : Session σ)

theorem later_act (op : Operation) : s.client.Later (after (op.act h) s).client := by
  cases hreports : op.reports with
  | true =>
      obtain ⟨phase, hclient⟩ := op.client_of_reports hreports h s
      have hkeeps := op.keepsName_act h s (by rintro rfl; cases hreports)
        (by rintro callsite rfl; cases hreports)
      refine ⟨hkeeps.incoming, fun hphase => ⟨mt hkeeps.phase hphase, ?_⟩⟩
      rw [hclient]
  | false =>
      cases op with
      | isFirst =>
          rw [act, Client.after_bind_pure, Client.after_isFirst]
          split <;> exact .refl _
      | prepare =>
          rw [act, Client.after_bind_pure]
          rcases Client.exists_after_prepare h s with hsame | ⟨hcreated, clock, index, w, hsame⟩
          · rw [hsame]
            exact .refl _
          · rw [hsame]
            exact ⟨rfl, fun hphase => absurd hcreated hphase⟩
      | updateCallsite callsite =>
          rw [act, Client.after_bind_pure]
          rcases Client.exists_after_updateCallsite h callsite s with
            hsame | ⟨-, index, state, hsame⟩
          · rw [hsame]
            exact .refl _
          · rw [hsame]
            exact ⟨rfl, fun hphase => ⟨hphase, rfl⟩⟩
      | register =>
          rw [act, Client.after_bind_pure]
          rcases register_cases h s with ⟨hsame, -⟩ | ⟨-, generatedId, fault, w, hsame, -⟩
          · rw [hsame]
            exact .refl _
          · rw [hsame]
            refine ⟨rfl, fun _ => ⟨fun heq => ?_, rfl⟩⟩
            cases heq
      | _ => cases hreports

end Operation

namespace Client

variable {σ : Type} (h : Harness σ)

/-- A name is asked for at the index, not at the clock. -/
theorem clock?_after_advance (s : Session σ) (service request : String) :
    (after (advance h) s).world.state.clock? service request =
      s.world.state.clock? service request := by
  have hclock := s.client.clock?_nameIn h s.world.state service request
  have hadvance := advance_eq h s
  rcases hname : s.client.nameIn h s.world.state with ⟨v | named, state⟩ <;>
    rw [hname] at hclock hadvance <;> dsimp only at hclock
  · rw [after_of_error hadvance]
    exact hclock
  · rw [after_of_ok hadvance]
    exact hclock

/-- The clock that a call gets and leaves behind for the next call of its pair. -/
theorem clock_after_prepare {s : Session σ} (hs : s.client.phase = .created) {first : Bool}
    {w : World σ} (hgreet : h.greeting s.client.callsite.service s.world = .ok (first, w)) :
    let state := s.world.state.startOver first s.client.callsite.service
    let clock := s.client.tickFrom
      ((state.clock? s.client.callsite.service s.client.requestId).getD .empty)
    (after (prepare h) s).client.clock = clock ∧
      (after (prepare h) s).client.incoming = s.client.incoming ∧
      (after (prepare h) s).client.phase = .prepared ∧
      ∀ service request, (after (prepare h) s).world.state.clock? service request =
        if service = s.client.callsite.service ∧ request = s.client.requestId then some clock
        else state.clock? service request := by
  intro state clock
  have hprepare : after (prepare h) s = after (advance h)
      ⟨{ s.client with phase := .prepared, clock }, ⟨(s.client.arrive state).2, w.source⟩⟩ := by
    rw [after, prepare_of_greeting h hs hgreet]
    rfl
  obtain ⟨index, left, hadvance⟩ := exists_after_advance h
    ⟨{ s.client with phase := .prepared, clock }, ⟨(s.client.arrive state).2, w.source⟩⟩
  refine ⟨?_, ?_, ?_, fun service request => ?_⟩
  · rw [hprepare, hadvance]
  · rw [hprepare, hadvance]
  · rw [hprepare, hadvance]
  · rw [hprepare, clock?_after_advance, clock?_arrive]

end Client

/-- Only a preparation ticks. -/
theorem Operation.clock?_act {σ : Type} (h : Harness σ) (s : Session σ) {op : Operation}
    (hop : op ≠ .prepare) (service request : String) :
    (after (op.act h) s).world.state.clock? service request =
      s.world.state.clock? service request := by
  by_cases hupdate : ∃ callsite, op = .updateCallsite callsite
  · obtain ⟨callsite, rfl⟩ := hupdate
    rw [act, Client.after_bind_pure, after, Client.updateCallsite_eq]
    by_cases hphase : s.client.phase = .prepared
    · rw [if_pos hphase]
      exact Client.clock?_after_advance h ⟨{ s.client with callsite }, s.world⟩ service request
    · rw [if_neg hphase]
  · rw [(op.keepsName_act h s hop fun callsite heq => hupdate ⟨callsite, heq⟩).state]

end Faultline
