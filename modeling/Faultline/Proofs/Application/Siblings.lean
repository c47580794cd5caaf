import Faultline.Proofs.Application.Basic
import Faultline.Proofs.Server
import Faultline.Proofs.Slot
import Faultline.Source.Script

/-!
# Calls of one request

Every call that is prepared or corrected touches the index of its request, and what it touches is
noted in a log.  From the first touch to the next start of the service, the index that is stored
shows what it showed first, every call is named by one push on that, and no name comes twice
(`siblings_apart`).  A step keeps what the touches so far say of the stored index (`Kept`).
-/

namespace Faultline

variable {σ : Type}

/-- A call asks for a name at the index of a request. -/
structure Touch where
  service : String
  request : String
  /-- What is stored where nothing is. -/
  fill : Index
  key : String
  /-- The index that is handed out; none if the operation breaks off. -/
  name : Option Trail

/-- What happens to the indexes that are stored. -/
inductive Event where
  | cleared (service : String)
  | touched (t : Touch)

def Client.touch (h : Harness σ) (c : Client) (fill : Index) (name : Option Trail) : Touch :=
  ⟨c.callsite.service, c.requestId, fill, c.key h, name⟩

/-- What an operation does to the indexes. -/
def Operation.events (op : Operation) (h : Harness σ) (s : Session σ) : List Event :=
  match op with
  | .prepare =>
    if s.client.phase = .created then
      match h.greeting s.client.callsite.service s.world with
      | .ok (first, _) =>
        (if first then [.cleared s.client.callsite.service] else []) ++
          [.touched (s.client.touch h s.client.incomingIndex (Client.handedOut (op.act h) s))]
      | .error _ => []
    else []
  | .updateCallsite callsite =>
    if s.client.phase = .prepared then
      [.touched ({ s.client with callsite }.touch h .empty (Client.handedOut (op.act h) s))]
    else []
  | _ => []

namespace Application

def events (h : Harness σ) (a : Application σ) : Move → List Event
  | .operate i op =>
    match a.clients[i]? with
    | some c => op.events h ⟨c, a.world⟩
    | none => []
  | _ => []

/-- What a run does to the indexes, in order. -/
def log (h : Harness σ) (ids : Nat → String) (a : Application σ) : List Move → List Event
  | [] => []
  | m :: moves => a.events h m ++ (a.step h ids m).log h ids moves

end Application

/-- The touches of a pair since its service was cleared, with one more event. -/
def Touch.collect (service request : String) (ts : List Touch) : Event → List Touch
  | .cleared other => if other = service then [] else ts
  | .touched t => if t.service = service ∧ t.request = request then ts ++ [t] else ts

/-- The touches of a pair since its service was last cleared. -/
def touchesOf (service request : String) (events : List Event) : List Touch :=
  events.foldl (Touch.collect service request) []

/-! ### Touches of one index -/

/-- Every touch is named after the touches before it. -/
def NamedFrom (b : Index) (ts : List Touch) : Prop :=
  ∀ before t after, ts = before ++ t :: after → t.name = b.nameAfter (before.map (·.key)) t.key

/-- What is stored for a pair fits the touches since its service was cleared. -/
def Kept (slot : Option Index) (ts : List Touch) : Prop :=
  match ts with
  | [] => slot = none
  | first :: _ => (∃ i, slot = some i ∧ first.fill.GoesOn (ts.map (·.key)) i) ∧
      NamedFrom first.fill ts

namespace NamedFrom

variable {b : Index} {ts : List Touch}

theorem concat (hts : NamedFrom b ts) {t : Touch}
    (ht : t.name = b.nameAfter (ts.map (·.key)) t.key) : NamedFrom b (ts ++ [t]) :=
  forall_split_concat hts ht

/-- No name is handed out twice. -/
theorem nodup (hts : NamedFrom b ts) : (ts.filterMap (·.name)).Nodup := by
  rw [List.Nodup, List.pairwise_filterMap]
  apply List.pairwise_iff_forall_sublist.2
  intro t u htu name hname name' hname'
  -- between the two touches the counter of the first one's key has gone on
  obtain ⟨front, back, rfl, ht, hu⟩ := List.cons_sublist_iff.1 htu
  obtain ⟨before, between, rfl⟩ := List.append_of_mem ht
  obtain ⟨between', rest, rfl⟩ := List.append_of_mem (List.singleton_sublist.1 hu)
  have hfirst := hts before t (between ++ between' ++ u :: rest) (by simp)
  have hsecond := hts (before ++ t :: between ++ between') u rest (by simp)
  refine Index.nameAfter_ne (hfirst.symm.trans hname) ?_ (hsecond.symm.trans hname')
  have hsplit : (before ++ t :: between ++ between').map (·.key) =
      (before.map (·.key) ++ [t.key]) ++ (between ++ between').map (·.key) := by simp
  rw [hsplit]
  exact List.sublist_append_left _ _

end NamedFrom

/-- One more touch of a pair. -/
theorem Kept.concat {slot : Option Index} {ts : List Touch} (hts : Kept slot ts) (h : Harness σ)
    {c : Client} {t : Touch} (hkey : t.key = c.key h)
    (hname : t.name = (c.nameFrom h (slot.getD t.fill)).1.toOption.map (·.trail)) :
    Kept (some (c.nameFrom h (slot.getD t.fill)).2) (ts ++ [t]) := by
  cases ts with
  | nil =>
      obtain rfl : slot = none := hts
      obtain ⟨hnamed, hgoes⟩ := c.nameFrom_spec h (.refl t.fill)
      rw [← hkey] at hnamed hgoes
      have hnil : NamedFrom t.fill [] := fun before t after hsplit => by simp at hsplit
      exact ⟨⟨_, rfl, hgoes⟩, hnil.concat (hname.trans hnamed)⟩
  | cons first rest =>
      obtain ⟨⟨i, rfl, hi⟩, hnames⟩ := hts
      obtain ⟨hnamed, hgoes⟩ := c.nameFrom_spec h hi
      rw [← hkey] at hnamed hgoes
      refine ⟨⟨_, rfl, ?_⟩, hnames.concat (hname.trans hnamed)⟩
      rw [List.map_append]
      exact hgoes

/-! ### Operations and runs -/

namespace Operation

variable {h : Harness σ} {s : Session σ} {service request : String} {ts : List Touch}

/-- A touch shows at its pair only. -/
theorem kept_touch {α : Type} {a : Client.Act σ α} {c : Client} {state : State} {fill : Index}
    (ha : Client.Touches h a s c state fill) (hts : Kept (state.index? service request) ts) :
    Kept ((after a s).world.state.index? service request)
      (Touch.collect service request ts (.touched (c.touch h fill (Client.handedOut a s)))) := by
  rw [ha.index?, Touch.collect]
  by_cases hpair : service = c.callsite.service ∧ request = c.requestId
  · obtain ⟨rfl, rfl⟩ := hpair
    rw [if_pos ⟨rfl, rfl⟩, if_pos ⟨rfl, rfl⟩]
    exact hts.concat h (t := c.touch h fill _) rfl ha.handedOut
  · rw [if_neg hpair, if_neg fun heq => hpair ⟨heq.1.symm, heq.2.symm⟩]
    exact hts

/-- Where a service starts over nothing is stored. -/
theorem kept_startOver {state : State} (hts : Kept (state.index? service request) ts) (first : Bool)
    (other : String) :
    Kept ((state.startOver first other).index? service request)
      ((if first then [.cleared other] else []).foldl (Touch.collect service request) ts) := by
  cases first with
  | false => exact hts
  | true =>
      simp only [State.startOver, if_true, State.index?_clearService, List.foldl_cons,
        List.foldl_nil, Touch.collect]
      by_cases heq : service = other
      · rw [if_pos heq, if_pos heq.symm]
        rfl
      · rw [if_neg heq, if_neg (Ne.symm heq)]
        exact hts

theorem kept_prepare (hts : Kept (s.world.state.index? service request) ts) :
    Kept ((after (prepare.act h) s).world.state.index? service request)
      ((prepare.events h s).foldl (Touch.collect service request) ts) := by
  by_cases hphase : s.client.phase = .created
  · simp only [events, if_pos hphase]
    cases hgreet : h.greeting s.client.callsite.service s.world with
    | error v =>
        rw [act, Client.after_bind_pure, Client.after_prepare,
          if_pos ((Phase.canBecome_prepared_iff _).2 hphase), hgreet]
        exact hts
    | ok r =>
        simp only [List.foldl_append, List.foldl_cons, List.foldl_nil]
        exact kept_touch ((Client.touches_prepare h hphase hgreet).bind_pure fun _ => Yield.done)
          (kept_startOver hts r.1 _)
  · have hcannot : ¬ s.client.phase.canBecome .prepared = true := fun hcan =>
      hphase ((Phase.canBecome_prepared_iff _).1 hcan)
    rw [act, Client.after_bind_pure, Client.after_prepare, if_neg hcannot, events, if_neg hphase]
    exact hts

/-- An operation keeps what the touches say of the stored indexes. -/
theorem kept_act (hts : Kept (s.world.state.index? service request) ts) (op : Operation) :
    Kept ((after (op.act h) s).world.state.index? service request)
      ((op.events h s).foldl (Touch.collect service request) ts) := by
  cases op with
  | prepare => exact kept_prepare hts
  | updateCallsite callsite =>
      by_cases hphase : s.client.phase = .prepared
      · simp only [events, if_pos hphase, List.foldl_cons, List.foldl_nil]
        exact kept_touch ((Client.touches_updateCallsite h callsite hphase).bind_pure fun _ =>
          Yield.done) hts
      · rw [act, Client.after_bind_pure, after,
          Client.updateCallsite_eq, if_neg hphase, events, if_neg hphase]
        exact hts
  | _ =>
      rw [(keepsName_act h s (by simp) (by simp)).state]
      exact hts

end Operation

namespace Application

variable {h : Harness σ} {ids : Nat → String} {a : Application σ} {service request : String}
  {ts : List Touch}

theorem kept_step (hts : Kept (a.world.state.index? service request) ts) (m : Move) :
    Kept ((a.step h ids m).world.state.index? service request)
      ((a.events h m).foldl (Touch.collect service request) ts) := by
  cases m with
  | operate i op =>
      simp only [step, operate, events]
      cases hc : a.clients[i]? with
      | none => exact hts
      | some c => exact op.kept_act (s := ⟨c, a.world⟩) hts
  | receive j k =>
      simp only [step, receive, events]
      split
      · rw [Server.state_receive]
        exact hts
      · exact hts
  | keep s => exact hts
  | edit k f => exact hts
  | create k callsite requestId preliminary transport =>
      simp only [step, events]
      split <;> exact hts
  | accept service c => exact hts
  | deliver i service =>
      simp only [step, events]
      split <;> exact hts

theorem kept_run (hts : Kept (a.world.state.index? service request) ts) (moves : List Move) :
    Kept ((a.run h ids moves).world.state.index? service request)
      ((a.log h ids moves).foldl (Touch.collect service request) ts) := by
  induction moves generalizing a ts with
  | nil => exact hts
  | cons m moves ih =>
      rw [log, List.foldl_append]
      exact ih (kept_step hts m)

/-- However the operations of clients and servers are ordered, between the first touch of a pair
of a service and a request and the next start of the service: the index that is stored shows what
the first touch found, which is the index that its request came with or an empty one; every call
is named by one push of its key on that; and no name is handed out twice. -/
theorem siblings_apart (h : Harness σ) (ids : Nat → String) (a : Application σ)
    (moves : List Move) {service request : String}
    (hblank : a.world.state.index? service request = none) :
    let touches := touchesOf service request (a.log h ids moves)
    ((a.run h ids moves).world.state.index? service request).map (·.trail) =
        touches.head?.map (·.fill.trail) ∧
      (∀ first ∈ touches.head?, ∀ before t after, touches = before ++ t :: after →
        t.name = first.fill.nameAfter (before.map (·.key)) t.key) ∧
      (touches.filterMap (·.name)).Nodup := by
  intro touches
  have hstart : Kept (a.world.state.index? service request) [] := hblank
  have hkept : Kept ((a.run h ids moves).world.state.index? service request) touches :=
    kept_run hstart moves
  generalize (a.run h ids moves).world.state.index? service request = slot at hkept
  generalize touches = ts at hkept
  cases ts with
  | nil =>
      obtain rfl : slot = none := hkept
      refine ⟨rfl, ?_, List.nodup_nil⟩
      intro first hfirst
      cases hfirst
  | cons first rest =>
      obtain ⟨⟨i, rfl, hi⟩, hnames⟩ := hkept
      refine ⟨congrArg some hi.trail, ?_, hnames.nodup⟩
      rintro _ ⟨⟩
      exact hnames

/-- Two calls of one request, of which the second is corrected to another method. -/
def correctedCalls : List Move :=
  [.keep ⟨{ requestId := some "r", index := some "[[\"k\", 1]]" }⟩,
    .create 0 ⟨"a", "b", "m", .empty, "f", 1, ""⟩ none none none,
    .create 0 ⟨"a", "b", "m", .empty, "f", 1, ""⟩ none none none,
    .operate 0 .prepare, .operate 1 .prepare,
    .operate 1 (.updateCallsite ⟨"a", "b", "n", .empty, "f", 1, ""⟩)]

theorem siblings_apart_correctedCalls :
    let a : Application Script := start ⟨.empty, ⟨[], [], [], 0⟩⟩
    a.world.state.index? "a" "r" = none ∧
      ((touchesOf "a" "r" (a.log (.plain .scripted) toString correctedCalls)).map (·.name)) =
        [some [("k", 1), ("V1-[]-[a]-[b,m,[]]-[f,1]-[,]", 1)],
          some [("k", 1), ("V1-[]-[a]-[b,m,[]]-[f,1]-[,]", 2)],
          some [("k", 1), ("V1-[]-[a]-[b,n,[]]-[f,1]-[,]", 1)]] ∧
      ((a.run (.plain .scripted) toString correctedCalls).world.state.index? "a" "r").map
        (·.trail) = some [("k", 1)] := by
  intro a
  have hblank : a.world.state.index? "a" "r" = none := rfl
  refine ⟨hblank, by cbv, ?_⟩
  have hapart := (siblings_apart (.plain .scripted) toString a correctedCalls hblank).1
  exact hapart.trans (by cbv)

end Application

end Faultline
