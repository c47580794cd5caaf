import Faultline.Proofs.Application.Basic
import Faultline.Proofs.Explorer.Greeting
import Faultline.Proofs.Slot

/-!
# Calls in any order

Clients that are prepared under an explorer, one after the other.  The name of a call depends on
the index that its request came with and on how often its key came before in the request
(`Tally.named`), so that the order of calls with another key, request or service does not matter
(`named_alike_in_any_order`).
-/

namespace Faultline

namespace Client

variable {σ : Type}

/-- Calls of one service for one request. -/
def SamePair (c c' : Client) : Prop :=
  c'.callsite.service = c.callsite.service ∧ c'.requestId = c.requestId

instance (c c' : Client) : Decidable (c.SamePair c') :=
  inferInstanceAs (Decidable (_ ∧ _))

/-- Calls of one pair with one key are numbered by one counter. -/
def SharesCounter (h : Harness σ) (c c' : Client) : Prop :=
  c.SamePair c' ∧ c'.key h = c.key h

instance (h : Harness σ) (c c' : Client) : Decidable (c.SharesCounter h c') :=
  inferInstanceAs (Decidable (_ ∧ _))

/-- The index that a call finds, once its service has started over or not. -/
def found (c : Client) (s : State) (first : Bool) : Index :=
  ((s.startOver first c.callsite.service).index? c.callsite.service c.requestId).getD
    c.incomingIndex

/-- Calls of one pair that came with one context find the same. -/
theorem found_eq {c c' : Client} (hpair : c.SamePair c') (hincoming : c'.incoming = c.incoming)
    (s : State) (first : Bool) : c'.found s first = c.found s first := by
  rw [found, found, hpair.1, hpair.2, incomingIndex, incomingIndex, hincoming]

section

variable {h : Harness σ} {α : Type} {a : Act σ α} {s : Session σ} {c : Client} {state : State}
  {first : Bool}
  (ha : Touches h a s c (state.startOver first c.callsite.service) c.incomingIndex)
include ha

/-- The next call of a pair finds what the last one has left. -/
theorem found_of_samePair {c' : Client} (hpair : c.SamePair c') :
    c'.found (after a s).world.state false = (c.nameFrom h (c.found state first)).2 := by
  rw [found, State.startOver, if_neg Bool.false_ne_true, ha.index?,
    if_pos ⟨hpair.1, hpair.2⟩]
  rfl

/-- A call of another request finds what it would have found before. -/
theorem found_of_sameService {c' : Client} (hpair : ¬ c.SamePair c')
    (hservice : c'.callsite.service = c.callsite.service) :
    c'.found (after a s).world.state false = c'.found state first := by
  have hrequest : ¬ (c'.callsite.service = c.callsite.service ∧ c'.requestId = c.requestId) :=
    hpair
  rw [found, State.startOver, if_neg Bool.false_ne_true, ha.index?, if_neg hrequest, found,
    hservice]

/-- So does a call of another service. -/
theorem found_of_otherService {c' : Client}
    (hservice : c'.callsite.service ≠ c.callsite.service) (first' : Bool) :
    c'.found (after a s).world.state first' = c'.found state first' := by
  cases first' with
  | false =>
      simp only [found, State.startOver, Bool.false_eq_true, if_false, ha.index?, hservice,
        false_and]
      cases first <;> simp [hservice]
  | true => simp [found, State.startOver]

end

end Client

/-- What an explorer answers to a greeting, if it is asked. -/
theorem Harness.greeting_explorer {h : Harness Explorer} (hsource : h.source = .explorer)
    {w : World Explorer} (hrun : w.source.isRunning = true) (service : String) :
    h.greeting service w = .ok (h.consults && !w.source.greets service,
      ⟨w.state, if h.consults then (w.source.greet service).2 else w.source⟩) := by
  unfold greeting
  cases h.consults with
  | false => rfl
  | true =>
      rw [hsource]
      simp only [if_true, Source.explorer, Source.replyOf, Explorer.greet_fst hrun, Bool.true_and]

namespace Application

variable {h : Harness Explorer} {s : State} {n : Nat} {cs : Fin n → Client} {done : List (Fin n)}
  {a : Application Explorer}

/-- The keys of a pair's calls, in the order in which they were prepared. -/
def keysOf (h : Harness Explorer) (cs : Fin n → Client) (c : Client) (done : List (Fin n)) :
    List String :=
  (done.filter fun i => c.SamePair (cs i)).map fun i => (cs i).key h

theorem keysOf_concat (c : Client) (i : Fin n) : keysOf h cs c (done ++ [i]) =
    if c.SamePair (cs i) then keysOf h cs c done ++ [(cs i).key h] else keysOf h cs c done := by
  by_cases hpair : c.SamePair (cs i) <;> simp [keysOf, hpair]

/-- What holds once the clients in `done` were prepared in this order. -/
structure Tally (h : Harness Explorer) (s : State) (cs : Fin n → Client) (done : List (Fin n))
    (a : Application Explorer) : Prop where
  running : a.world.source.isRunning = true
  greets : ∀ service, a.world.source.greets service =
    (h.consults && done.any fun i => service == (cs i).callsite.service)
  /-- What a call would find now. -/
  found : ∀ i, ((cs i).found s h.consults).GoesOn (keysOf h cs (cs i) done)
    ((cs i).found a.world.state (h.consults && !a.world.source.greets (cs i).callsite.service))
  length : a.clients.length = n
  waiting : ∀ i, i ∉ done → a.clients[(i : Nat)]? = some (cs i)
  named : ∀ before (i : Fin n) after, done = before ++ i :: after →
    a.clients[(i : Nat)]?.map (·.index.trail) =
      some ((((cs i).found s h.consults).nameAfter (keysOf h cs (cs i) before)
        ((cs i).key h)).getD (cs i).index.trail)

/-- At the start nothing was prepared. -/
theorem tally_nil {x : Explorer} (hx : x.AtStart) :
    Tally h s cs [] ⟨⟨s, x⟩, [], .ofFn cs, [], []⟩ where
  running := hx.isRunning
  greets service := by simp [hx.greets]
  found i := by
    simp only [hx.greets, Bool.not_false, Bool.and_true]
    exact .refl _
  length := List.length_ofFn
  waiting i _ := by simp
  named before i after hsplit := by simp at hsplit

theorem operate_of_getElem? {i : Nat} {c : Client} (hc : a.clients[i]? = some c) (op : Operation) :
    (a.operate h i op).world = (after (op.act h) ⟨c, a.world⟩).world ∧
      (a.operate h i op).clients = a.clients.set i (after (op.act h) ⟨c, a.world⟩).client := by
  simp [operate, hc]

namespace Tally

variable (ha : Tally h s cs done a) (hsource : h.source = .explorer)
  (hcreated : ∀ i, (cs i).phase = .created)
include ha hsource hcreated

/-- The next client asks for a name. -/
theorem touches (i : Fin n) : Client.Touches h (Operation.prepare.act h) ⟨cs i, a.world⟩ (cs i)
    (a.world.state.startOver (h.consults && !a.world.source.greets (cs i).callsite.service)
      (cs i).callsite.service) (cs i).incomingIndex :=
  (Client.touches_prepare h (s := ⟨cs i, a.world⟩) (hcreated i)
    (Harness.greeting_explorer hsource ha.running (cs i).callsite.service)).bind_pure fun _ =>
      Yield.done

variable {i : Fin n} (hi : i ∉ done)
include hi

theorem source_operate : (a.operate h i .prepare).world.source =
    if h.consults then (a.world.source.greet (cs i).callsite.service).2 else a.world.source := by
  rw [(operate_of_getElem? (ha.waiting i hi) .prepare).1, Operation.act, Client.after_bind_pure,
    Client.source_after_prepare h (s := ⟨cs i, a.world⟩) (hcreated i)
      (Harness.greeting_explorer hsource ha.running (cs i).callsite.service)]

theorem greets_operate (service : String) : (a.operate h i .prepare).world.source.greets service =
    (h.consults && (service == (cs i).callsite.service || a.world.source.greets service)) := by
  rw [source_operate ha hsource hcreated hi]
  cases hconsults : h.consults with
  | true => simp [Explorer.greets_greet ha.running]
  | false => simp [ha.greets, hconsults]

variable (hincoming : ∀ i j, (cs i).SamePair (cs j) → (cs j).incoming = (cs i).incoming)
include hincoming

/-- What the other calls find then. -/
theorem found_operate (j : Fin n) : ((cs j).found s h.consults).GoesOn
    (keysOf h cs (cs j) (done ++ [i]))
    ((cs j).found (a.operate h i .prepare).world.state
      (h.consults && !(a.operate h i .prepare).world.source.greets (cs j).callsite.service)) := by
  have htouches := touches ha hsource hcreated i
  rw [greets_operate ha hsource hcreated hi, (operate_of_getElem? (ha.waiting i hi) .prepare).1,
    keysOf_concat]
  by_cases hservice : (cs j).callsite.service = (cs i).callsite.service
  · -- the service has started over, if it had to
    have hfirst : (h.consults && !(h.consults && ((cs j).callsite.service ==
        (cs i).callsite.service || a.world.source.greets (cs j).callsite.service))) = false := by
      cases h.consults <;> simp [hservice]
    rw [hfirst]
    by_cases hpair : (cs i).SamePair (cs j)
    · have hpair' : (cs j).SamePair (cs i) := ⟨hpair.1.symm, hpair.2.symm⟩
      rw [if_pos hpair', Client.found_of_samePair htouches hpair]
      have hfound := ha.found j
      rw [hservice, Client.found_eq hpair (hincoming i j hpair),
        Client.found_eq hpair (hincoming i j hpair)] at hfound
      rw [Client.found_eq hpair (hincoming i j hpair)]
      exact ((cs i).nameFrom_spec h hfound).2
    · have hpair' : ¬ (cs j).SamePair (cs i) := fun h => hpair ⟨h.1.symm, h.2.symm⟩
      rw [if_neg hpair', Client.found_of_sameService htouches hpair hservice, ← hservice]
      exact ha.found j
  · have hpair' : ¬ (cs j).SamePair (cs i) := fun h => hservice h.1.symm
    have hfirst : (h.consults && !(h.consults && ((cs j).callsite.service ==
        (cs i).callsite.service || a.world.source.greets (cs j).callsite.service))) =
        (h.consults && !a.world.source.greets (cs j).callsite.service) := by
      cases h.consults <;> simp [hservice]
    rw [if_neg hpair', hfirst, Client.found_of_otherService htouches hservice]
    exact ha.found j

/-- The next client gets the name that comes after those of the clients before it. -/
theorem prepare : Tally h s cs (done ++ [i]) (a.operate h i .prepare) where
  running := by
    rw [source_operate ha hsource hcreated hi]
    split
    · exact (Explorer.isRunning_greet _ _).trans ha.running
    · exact ha.running
  greets service := by
    rw [greets_operate ha hsource hcreated hi, ha.greets, List.any_append, List.any_cons,
      List.any_nil, Bool.or_false]
    cases h.consults <;> simp [Bool.or_comm]
  found := found_operate ha hsource hcreated hi hincoming
  length := by
    rw [(operate_of_getElem? (ha.waiting i hi) .prepare).2, List.length_set]
    exact ha.length
  waiting j hj := by
    rw [List.mem_append, List.mem_singleton, not_or] at hj
    rw [(operate_of_getElem? (ha.waiting i hi) .prepare).2, List.getElem?_set_ne]
    · exact ha.waiting j hj.1
    · exact fun heq => hj.2 (Fin.ext heq.symm)
  named := by
    rw [(operate_of_getElem? (ha.waiting i hi) .prepare).2]
    refine forall_split_concat (fun before j after hsplit => ?_) ?_
    · have hj : j ∈ done := hsplit ▸ List.mem_append_right _ List.mem_cons_self
      have hne : (i : Nat) ≠ j := fun heq => hi (Fin.ext heq ▸ hj : i ∈ done)
      rw [List.getElem?_set_ne hne]
      exact ha.named before j after hsplit
    · have hlt : (i : Nat) < a.clients.length := ha.length.symm ▸ i.isLt
      have htouches := touches ha hsource hcreated i
      rw [List.getElem?_set_self hlt, Option.map_some, htouches.trail, htouches.handedOut]
      exact congrArg (fun t => some (Option.getD t _)) ((cs i).nameFrom_spec h (ha.found i)).1

end Tally

/-- Clients are prepared one after the other. -/
def preparing (order : List (Fin n)) : List Move :=
  order.map fun i => .operate i .prepare

theorem tally_run (hsource : h.source = .explorer) (hcreated : ∀ i, (cs i).phase = .created)
    (hincoming : ∀ i j, (cs i).SamePair (cs j) → (cs j).incoming = (cs i).incoming)
    (ids : Nat → String) (ha : Tally h s cs done a) {order : List (Fin n)}
    (hnodup : (done ++ order).Nodup) :
    Tally h s cs (done ++ order) (a.run h ids (preparing order)) := by
  induction order generalizing done a with
  | nil => rwa [List.append_nil]
  | cons i order ih =>
      have hi : i ∉ done := fun hmem =>
        (List.nodup_append.1 hnodup).2.2 i hmem i List.mem_cons_self rfl
      rw [List.append_cons] at hnodup ⊢
      exact ih (ha.prepare hsource hcreated hi hincoming) hnodup

/-! ### Orders -/

/-- What stands before an entry comes earlier. -/
theorem idxOf_lt_idxOf_iff {before after : List (Fin n)} {i j : Fin n}
    (hnodup : (before ++ j :: after).Nodup) :
    (before ++ j :: after).idxOf i < (before ++ j :: after).idxOf j ↔ i ∈ before := by
  have hj : j ∉ before := fun hmem =>
    (List.nodup_append.1 hnodup).2.2 j hmem j List.mem_cons_self rfl
  rw [List.idxOf_append_of_notMem hj, List.idxOf_cons_self, Nat.add_zero]
  constructor
  · intro hlt
    by_contra hi
    rw [List.idxOf_append_of_notMem hi] at hlt
    omega
  · intro hi
    rw [List.idxOf_append_of_mem hi]
    exact List.idxOf_lt_length_of_mem hi

/-- Lists with the same entries of a kind have equally many of them. -/
theorem countP_eq_of_mem_iff {l l' : List (Fin n)} (hl : l.Nodup) (hl' : l'.Nodup)
    {p : Fin n → Bool} (hmem : ∀ i, p i = true → (i ∈ l ↔ i ∈ l')) : l.countP p = l'.countP p := by
  rw [List.countP_eq_length_filter, List.countP_eq_length_filter]
  apply List.Perm.length_eq
  rw [List.perm_ext_iff_of_nodup (hl.filter p) (hl'.filter p)]
  intro i
  rw [List.mem_filter, List.mem_filter]
  exact and_congr_left fun hp => hmem i hp

theorem count_keysOf (c : Client) (done : List (Fin n)) : (keysOf h cs c done).count (c.key h) =
    done.countP fun i => c.SharesCounter h (cs i) := by
  rw [keysOf, List.count, List.countP_map, List.countP_filter]
  congr 1
  funext i
  rw [Bool.eq_iff_iff, decide_eq_true_iff]
  simp [Client.SharesCounter, and_comm]

/-- An order without repetitions stops once at every client. -/
theorem exists_split {order : List (Fin n)} (horder : order.Perm (List.finRange n)) (i : Fin n) :
    ∃ before after, order = before ++ i :: after :=
  List.append_of_mem (horder.mem_iff.2 (List.mem_finRange i))

/-- Where calls that share a counter come in the same order, the same ones of them come before a
call. -/
theorem mem_before_iff {before after before' after' : List (Fin n)} {j : Fin n}
    (hnodup : (before ++ j :: after).Nodup) (hnodup' : (before' ++ j :: after').Nodup)
    (hkeeps : ∀ i j', (cs i).SharesCounter h (cs j') →
      (before ++ j :: after).idxOf i < (before ++ j :: after).idxOf j' →
      (before' ++ j :: after').idxOf i < (before' ++ j :: after').idxOf j')
    {i : Fin n} (hi : (cs j).SharesCounter h (cs i)) : i ∈ before ↔ i ∈ before' := by
  have hi' : (cs i).SharesCounter h (cs j) := ⟨⟨hi.1.1.symm, hi.1.2.symm⟩, hi.2.symm⟩
  rw [← idxOf_lt_idxOf_iff hnodup, ← idxOf_lt_idxOf_iff hnodup']
  refine ⟨hkeeps i j hi', fun hlt' => ?_⟩
  by_contra hlt
  rcases Nat.lt_or_eq_of_le (Nat.le_of_not_lt hlt) with hgt | heq
  · -- the other order would be kept as well
    have hgt' := hkeeps j i hi hgt
    omega
  · obtain rfl : j = i := (List.idxOf_inj (by simp)).1 heq
    omega

/-- Under an explorer, from the start of an execution, clients of which those of one service and
request came with one context are prepared in two orders.  Where calls that share a counter come in
the same order, every call gets the same index. -/
theorem named_alike_in_any_order (hsource : h.source = .explorer) {x : Explorer} (hx : x.AtStart)
    (s : State) (ids : Nat → String) {n : Nat} {cs : Fin n → Client}
    (hcreated : ∀ i, (cs i).phase = .created)
    (hincoming : ∀ i j, (cs i).SamePair (cs j) → (cs j).incoming = (cs i).incoming)
    {order order' : List (Fin n)} (horder : order.Perm (List.finRange n))
    (horder' : order'.Perm (List.finRange n))
    (hkeeps : ∀ i j, (cs i).SharesCounter h (cs j) →
      order.idxOf i < order.idxOf j → order'.idxOf i < order'.idxOf j) :
    let a : Application Explorer := ⟨⟨s, x⟩, [], .ofFn cs, [], []⟩
    (a.run h ids (preparing order')).clients.map (·.index.trail) =
      (a.run h ids (preparing order)).clients.map (·.index.trail) := by
  intro a
  have hnodup : order.Nodup := horder.nodup_iff.2 (List.nodup_finRange n)
  have hnodup' : order'.Nodup := horder'.nodup_iff.2 (List.nodup_finRange n)
  have htally : Tally h s cs order (a.run h ids (preparing order)) :=
    tally_run hsource hcreated hincoming ids (tally_nil hx) (by rwa [List.nil_append])
  have htally' : Tally h s cs order' (a.run h ids (preparing order')) :=
    tally_run hsource hcreated hincoming ids (tally_nil hx) (by rwa [List.nil_append])
  apply List.ext_getElem?
  intro k
  rw [List.getElem?_map, List.getElem?_map]
  by_cases hk : k < n
  · obtain ⟨before, after, rfl⟩ := exists_split horder ⟨k, hk⟩
    obtain ⟨before', after', rfl⟩ := exists_split horder' ⟨k, hk⟩
    have hcount : (keysOf h cs (cs ⟨k, hk⟩) before').count ((cs ⟨k, hk⟩).key h) =
        (keysOf h cs (cs ⟨k, hk⟩) before).count ((cs ⟨k, hk⟩).key h) := by
      rw [count_keysOf, count_keysOf]
      refine countP_eq_of_mem_iff (List.nodup_append.1 hnodup').1 (List.nodup_append.1 hnodup).1
        fun i hi => ?_
      exact (mem_before_iff hnodup hnodup' hkeeps (of_decide_eq_true hi)).symm
    refine (htally'.named before' ⟨k, hk⟩ after' rfl).trans
      (Eq.trans ?_ (htally.named before ⟨k, hk⟩ after rfl).symm)
    rw [Index.nameAfter_congr _ hcount]
  · have hlength := htally.length
    have hlength' := htally'.length
    rw [List.getElem?_eq_none (by omega), List.getElem?_eq_none (by omega)]

/-- Two calls of one service and one of another, all from one request. -/
def threeCalls : Fin 3 → Client :=
  let call (service : String) : Client :=
    .make ⟨service, "c", "m", .empty, "f", 1, ""⟩ { requestId := some "r" } "q"
  ![call "a", call "a", call "b"]

theorem named_alike_in_any_order_threeCalls :
    let a : Application Explorer := ⟨⟨.empty, .start none false⟩, [], .ofFn threeCalls, [], []⟩
    let order : List (Fin 3) := [0, 1, 2]
    let order' : List (Fin 3) := [0, 2, 1]
    (a.run (.plain .explorer) toString (preparing order')).clients.map (·.index.trail) =
        (a.run (.plain .explorer) toString (preparing order)).clients.map (·.index.trail) ∧
      (a.run (.plain .explorer) toString (preparing order)).clients.map (·.index.trail) =
        [[("V1-[]-[a]-[c,m,[]]-[f,1]-[,]", 1)], [("V1-[]-[a]-[c,m,[]]-[f,1]-[,]", 2)],
          [("V1-[]-[b]-[c,m,[]]-[f,1]-[,]", 1)]] := by
  intro a order order'
  have hcreated : ∀ i, (threeCalls i).phase = .created := by decide
  have hincoming : ∀ i j, (threeCalls j).incoming = (threeCalls i).incoming := by decide
  have hkeeps : ∀ i j, (threeCalls j).callsite.service = (threeCalls i).callsite.service →
      order.idxOf i < order.idxOf j → order'.idxOf i < order'.idxOf j := by decide
  refine ⟨?_, by cbv⟩
  exact named_alike_in_any_order rfl (Explorer.atStart_start none false) .empty toString hcreated
    (fun i j _ => hincoming i j) (by decide) (by decide) fun i j hshares => hkeeps i j hshares.1.1

end Application

end Faultline
