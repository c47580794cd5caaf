import Faultline.Proofs.Extension
import Mathlib.Data.List.Nodup

/-!
# Names of calls

The calls of one tree, in the order in which they were named.  A request opens with the trail of
the call that made it, the root request with a trail of its own; a call extends the trail of its
request by its key, with a count that goes on for each service (`Named`).  `slot_getElem` says
which counts the calls of one key get.  Two calls have the same trail in two ways only: the key
does not tell which service calls, or a call repeats under another one that has its key (`Folds`).
-/

namespace Faultline

/-- A call that was named. -/
structure Call where
  service : String
  /-- The request that the caller serves. -/
  request : String
  /-- The request that the call makes. -/
  id : String
  key : String
  trail : Trail

namespace Call

/-- Whether a call is one of a service with a key in a request. -/
def isIn (service request key : String) (c : Call) : Bool :=
  c.service == service && c.request == request && c.key == key

theorem isIn_iff {service request key : String} {c : Call} :
    c.isIn service request key = true ↔
      c.service = service ∧ c.request = request ∧ c.key = key := by
  simp [isIn, and_assoc]

theorem isIn_self (c : Call) : c.isIn c.service c.request c.key = true :=
  isIn_iff.2 ⟨rfl, rfl, rfl⟩

/-- The calls of a service with a key in a request, in order. -/
def slot (service request key : String) (cs : List Call) : List Call :=
  cs.filter (isIn service request key)

/-- A request opens with a trail: the root request, or one that a call made. -/
def Opens (root : String) (base : Trail) (cs : List Call) (request : String) (t : Trail) : Prop :=
  (request = root ∧ t = base) ∨ ∃ p ∈ cs, p.id = request ∧ p.trail = t

/-- The calls of a tree are named one after the other. -/
inductive Named (root : String) (base : Trail) : List Call → Prop
  | nil : Named root base []
  | snoc {cs : List Call} {c : Call} {t : Trail} {n : UInt64} :
    Named root base cs → (∀ p ∈ cs, p.id ≠ c.id) → c.id ≠ root →
    Opens root base cs c.request t → c.trail = t.extend c.key n →
    n.toNat = t.maxCount c.key + (slot c.service c.request c.key cs).length + 1 →
    Named root base (cs ++ [c])

/-- The calls of one request with one key come from one service. -/
def KeysTellServices (cs : List Call) : Prop :=
  ∀ p ∈ cs, ∀ q ∈ cs, q.request = p.request → q.key = p.key → q.service = p.service

/-- A call `p` is repeated in its request by a later call `q`, and under `p` by a call `e`. -/
def Folds (cs : List Call) (p q e : Call) : Prop :=
  [p, q].Sublist cs ∧ q.request = p.request ∧ q.key = p.key ∧
    e ∈ cs ∧ e.request = p.id ∧ e.key = p.key

variable {root : String} {base : Trail} {cs : List Call}

/-! ### Requests and the trails that they open with -/

theorem Opens.append {request : String} {t : Trail} (h : Opens root base cs request t)
    (cs' : List Call) : Opens root base (cs ++ cs') request t := by
  rcases h with h | ⟨p, hp, hid, ht⟩
  · exact .inl h
  · exact .inr ⟨p, List.mem_append_left cs' hp, hid, ht⟩

theorem Named.nodup_ids (h : Named root base cs) :
    (cs.map (·.id)).Nodup ∧ ∀ p ∈ cs, p.id ≠ root := by
  induction h with
  | nil => simp
  | @snoc cs c _ _ _ hid hroot _ _ _ ih =>
      constructor
      · rw [List.map_append, List.nodup_append]
        refine ⟨ih.1, by simp, ?_⟩
        intro a ha b hb
        obtain ⟨p, hp, rfl⟩ := List.mem_map.1 ha
        obtain rfl : b = c.id := by simpa using hb
        exact hid p hp
      · intro p hp
        rcases List.mem_append.1 hp with hp | hp
        · exact ih.2 p hp
        · exact List.mem_singleton.1 hp ▸ hroot

/-- A request opens with one trail. -/
theorem Named.opens_unique (h : Named root base cs) {request : String} {t u : Trail}
    (ht : Opens root base cs request t) (hu : Opens root base cs request u) : t = u := by
  obtain ⟨hnodup, hroot⟩ := h.nodup_ids
  rcases ht with ⟨hr, rfl⟩ | ⟨p, hp, hid, rfl⟩ <;> rcases hu with ⟨hr', rfl⟩ | ⟨q, hq, hid', rfl⟩
  · rfl
  · exact absurd (hid'.trans hr) (hroot q hq)
  · exact absurd (hid.trans hr') (hroot p hp)
  · rw [List.inj_on_of_nodup_map hnodup hp hq (hid.trans hid'.symm)]

theorem Named.exists_opens (h : Named root base cs) {c : Call} (hc : c ∈ cs) :
    ∃ t, Opens root base cs c.request t := by
  induction h with
  | nil => simp at hc
  | @snoc cs d t n _ _ _ hopens _ _ ih =>
      rcases List.mem_append.1 hc with hc | hc
      · obtain ⟨u, hu⟩ := ih hc
        exact ⟨u, hu.append [d]⟩
      · exact ⟨t, List.mem_singleton.1 hc ▸ hopens.append [d]⟩

/-! ### The counts of a slot -/

theorem slot_concat (service request key : String) (cs : List Call) (c : Call) :
    slot service request key (cs ++ [c]) =
      slot service request key cs ++ if c.isIn service request key = true then [c] else [] := by
  rw [slot, slot, List.filter_append, List.filter_singleton]
  cases c.isIn service request key <;> rfl

/-- The calls of a slot extend the trail of their request, with one count after the other. -/
theorem Named.slot_getElem (h : Named root base cs) {service request key : String} {t : Trail}
    (ht : Opens root base cs request t) {j : Nat} {c : Call}
    (hc : (slot service request key cs)[j]? = some c) :
    ∃ n : UInt64, c.trail = t.extend key n ∧ n.toNat = t.maxCount key + j + 1 := by
  induction h generalizing t j with
  | nil => simp [slot] at hc
  | @snoc cs d u n hcs hid hroot hopens htrail hcount ih =>
      have hall : Named root base (cs ++ [d]) := .snoc hcs hid hroot hopens htrail hcount
      rw [slot_concat] at hc
      by_cases hj : j < (slot service request key cs).length
      · rw [List.getElem?_append_left hj] at hc
        have hmem := List.mem_filter.1 (List.mem_of_getElem? hc)
        obtain ⟨v, hv⟩ := hcs.exists_opens hmem.1
        rw [(isIn_iff.1 hmem.2).2.1] at hv
        rw [hall.opens_unique ht (hv.append [d])]
        exact ih hv hc
      · rw [List.getElem?_append_right (by omega)] at hc
        cases hin : d.isIn service request key with
        | false => simp [hin] at hc
        | true =>
            rw [if_pos hin] at hc
            obtain ⟨hj', rfl⟩ : j - (slot service request key cs).length = 0 ∧ d = c := by
              cases hsub : j - (slot service request key cs).length with
              | zero => simpa [hsub] using hc
              | succ k => simp [hsub] at hc
            obtain ⟨rfl, rfl, rfl⟩ := isIn_iff.1 hin
            rw [hall.opens_unique ht (hopens.append [d])]
            exact ⟨n, htrail, by omega⟩

/-- Where a call stands in its slot. -/
theorem exists_slot_getElem {c : Call} (hc : c ∈ cs) {service request key : String}
    (hin : c.isIn service request key = true) :
    ∃ j : Nat, (slot service request key cs)[j]? = some c :=
  List.mem_iff_getElem?.1 (List.mem_filter.2 ⟨hc, hin⟩)

/-- A call extends the trail of its request, with a count above all earlier ones of its key. -/
theorem Named.exists_extend (h : Named root base cs) {c : Call} (hc : c ∈ cs) {t : Trail}
    (ht : Opens root base cs c.request t) :
    ∃ n : UInt64, c.trail = t.extend c.key n ∧ t.maxCount c.key < n.toNat := by
  obtain ⟨j, hj⟩ := exists_slot_getElem hc c.isIn_self
  obtain ⟨n, htrail, hn⟩ := h.slot_getElem ht hj
  exact ⟨n, htrail, by omega⟩

theorem Named.request_ne_id (h : Named root base cs) {c : Call} (hc : c ∈ cs) :
    c.request ≠ c.id := by
  induction h with
  | nil => simp at hc
  | @snoc cs d _ _ _ hid hroot hopens _ _ ih =>
      rcases List.mem_append.1 hc with hc | hc
      · exact ih hc
      · obtain rfl := List.mem_singleton.1 hc
        intro heq
        rcases hopens with ⟨hr, -⟩ | ⟨p, hp, hpid, -⟩
        · exact hroot (heq.symm.trans hr)
        · exact hid p hp (hpid.trans heq)

/-! ### Ranks grow along the tree -/

theorem Named.rank_base_lt (h : Named root base cs) {c : Call} (hc : c ∈ cs) :
    base.rank < c.trail.rank := by
  induction h generalizing c with
  | nil => simp at hc
  | @snoc cs d t n _ _ _ hopens htrail hcount ih =>
      rcases List.mem_append.1 hc with hc | hc
      · exact ih hc
      · obtain rfl := List.mem_singleton.1 hc
        have hlt : t.rank < c.trail.rank := by
          rw [htrail]
          exact Trail.rank_lt_extend (by omega)
        rcases hopens with ⟨-, rfl⟩ | ⟨p, hp, -, rfl⟩
        · exact hlt
        · exact Nat.lt_trans (ih hp) hlt

theorem Named.rank_base_le (h : Named root base cs) {request : String} {t : Trail}
    (ht : Opens root base cs request t) : base.rank ≤ t.rank := by
  rcases ht with ⟨-, rfl⟩ | ⟨p, hp, -, rfl⟩
  · exact Nat.le_refl _
  · exact Nat.le_of_lt (h.rank_base_lt hp)

/-- Of two requests, the one that opens with the larger rank was made by a call. -/
theorem Named.exists_call (h : Named root base cs) {request request' : String} {t u : Trail}
    (ht : Opens root base cs request t) (hu : Opens root base cs request' u)
    (hlt : u.rank < t.rank) : ∃ p ∈ cs, p.id = request ∧ p.trail = t := by
  rcases ht with ⟨-, rfl⟩ | hp
  · exact absurd (h.rank_base_le hu) (Nat.not_le_of_lt hlt)
  · exact hp

theorem Named.key_eq (h : Named root base cs) {c : Call} (hc : c ∈ cs) {t : Trail} {key : String}
    {n : UInt64} (htrail : c.trail = t ++ [(key, n)]) : c.key = key := by
  obtain ⟨u, hu⟩ := h.exists_opens hc
  obtain ⟨m, hm, -⟩ := h.exists_extend hc hu
  rw [hm, Trail.extend] at htrail
  have hlast := (List.append_inj' htrail rfl).2
  exact congrArg Prod.fst (List.cons.inj hlast).1

/-! ### Where trails differ -/

/-- Where the trails of the calls differ, each opens one request. -/
theorem Named.opens_inj (h : Named root base cs) (hnodup : (cs.map (·.trail)).Nodup)
    {request request' : String} {t : Trail} (ht : Opens root base cs request t)
    (ht' : Opens root base cs request' t) : request = request' := by
  rcases ht with ⟨hr, rfl⟩ | ⟨p, hp, rfl, rfl⟩ <;> rcases ht' with ⟨hr', hbase⟩ | ⟨q, hq, rfl, htq⟩
  · exact hr.trans hr'.symm
  · exact absurd (h.rank_base_lt hq) (htq ▸ Nat.lt_irrefl _)
  · exact absurd (h.rank_base_lt hp) (hbase ▸ Nat.lt_irrefl _)
  · rw [List.inj_on_of_nodup_map hnodup hp hq htq.symm]

theorem sublist_of_getElem? {service request key : String} {p q : Call} {i j : Nat} (hij : i < j)
    (hp : (slot service request key cs)[i]? = some p)
    (hq : (slot service request key cs)[j]? = some q) : [p, q].Sublist cs := by
  obtain ⟨hi, rfl⟩ := List.getElem?_eq_some_iff.1 hp
  obtain ⟨hj, rfl⟩ := List.getElem?_eq_some_iff.1 hq
  have hpair : List.Sublist [(slot service request key cs)[i], (slot service request key cs)[j]]
      (slot service request key cs) :=
    @List.map_getElem_sublist _ _ [⟨i, hi⟩, ⟨j, hj⟩] (by simpa using hij)
  exact hpair.trans List.filter_sublist

theorem exists_getElem?_of_sublist {p q : Call} (h : [p, q].Sublist cs)
    {service request key : String} (hp : p.isIn service request key = true)
    (hq : q.isIn service request key = true) :
    ∃ i j : Nat, i < j ∧ (slot service request key cs)[i]? = some p ∧
      (slot service request key cs)[j]? = some q := by
  have hfilter := h.filter (isIn service request key)
  rw [List.filter_cons_of_pos hp, List.filter_cons_of_pos hq, List.filter_nil] at hfilter
  obtain ⟨is, his, hlt⟩ := List.sublist_eq_map_getElem hfilter
  match is, his, hlt with
  | [i, j], his, hlt =>
      have hij : i < j := by simpa using hlt
      simp only [List.map_cons, List.map_nil, List.cons.injEq, and_true] at his
      exact ⟨i, j, hij, List.getElem?_eq_some_iff.2 ⟨i.2, his.1.symm⟩,
        List.getElem?_eq_some_iff.2 ⟨j.2, his.2.symm⟩⟩

/-! ### Two ways to share a trail -/

section

variable {c : Call}

/-- The earlier of two calls of a slot is the one with the smaller rank. -/
theorem Named.sublist_of_rank_lt (h : Named root base cs) {p q : Call} (hp : p ∈ cs) (hq : q ∈ cs)
    (hservice : q.service = p.service) (hrequest : q.request = p.request) (hkey : q.key = p.key)
    (hlt : p.trail.rank < q.trail.rank) : [p, q].Sublist cs := by
  obtain ⟨t, ht⟩ := h.exists_opens hp
  obtain ⟨i, hi⟩ := exists_slot_getElem hp p.isIn_self
  obtain ⟨j, hj⟩ := exists_slot_getElem hq (isIn_iff.2 ⟨hservice, hrequest, hkey⟩)
  obtain ⟨m, hm, hmi⟩ := h.slot_getElem ht hi
  obtain ⟨n, hn, hnj⟩ := h.slot_getElem ht hj
  rw [hm, hn, Trail.extend, Trail.extend, Trail.rank_concat, Trail.rank_concat] at hlt
  exact sublist_of_getElem? (by omega) hi hj

theorem Named.dropLast_eq (h : Named root base cs) {p : Call} (hp : p ∈ cs) {t : Trail}
    (ht : Opens root base cs p.request t) : p.trail.dropLast = t.stem p.key := by
  obtain ⟨n, hn, -⟩ := h.exists_extend hp ht
  rw [hn, Trail.dropLast_extend]

theorem Named.rank_lt (h : Named root base cs) {p : Call} (hp : p ∈ cs) {t : Trail}
    (ht : Opens root base cs p.request t) : t.rank < p.trail.rank := by
  obtain ⟨n, hn, hmax⟩ := h.exists_extend hp ht
  rw [hn]
  exact Trail.rank_lt_extend hmax

/-- Of two requests whose trails have one stem, the one with the larger rank was made by a call of
the key. -/
theorem Named.exists_of_stem_eq (h : Named root base cs) {request request' key : String}
    {t u : Trail} (ht : Opens root base cs request t) (hu : Opens root base cs request' u)
    (hstem : t.stem key = u.stem key) (hlt : u.rank < t.rank) :
    ∃ p ∈ cs, p.id = request ∧ p.key = key ∧ p.trail = t ∧ p.trail.dropLast = t.stem key ∧
      ∃ v, Opens root base cs p.request v := by
  obtain ⟨p, hp, hid, hpt⟩ := h.exists_call ht hu hlt
  obtain ⟨k, hk⟩ := Trail.eq_concat_of_rank_lt hstem hlt
  refine ⟨p, hp, hid, h.key_eq hp (hpt.trans hk), hpt, ?_, h.exists_opens hp⟩
  rw [hpt]
  conv_lhs => rw [hk]
  exact List.dropLast_concat

/-- A call whose key is called again under it has no higher call with the same stem above it.  The
induction goes down the requests of both calls until the two are in the same request, where the
higher one is a repetition. -/
theorem Named.not_reentered (hall : Named root base (cs ++ [c])) (h : Named root base cs)
    (hnodup : (cs.map (·.trail)).Nodup) (hservices : KeysTellServices (cs ++ [c]))
    (hfolds : ∀ p q e, ¬ Folds (cs ++ [c]) p q e) (bound : Nat) :
    ∀ (o q e : Call) (t u : Trail), o ∈ cs → q ∈ cs ++ [c] → e ∈ cs ++ [c] →
      e.request = o.id → e.key = o.key → q.key = o.key → q.trail.dropLast = o.trail.dropLast →
      Opens root base cs o.request t → Opens root base cs q.request u →
      u.rank < o.trail.rank → o.trail.rank < q.trail.rank →
      o.trail.rank + q.trail.rank < bound → False := by
  induction bound with
  | zero => intros; omega
  | succ bound ih =>
      intro o q e t u ho hq he hrequest hekey hkey hdrop ht hu hlow hlt hbound
      have ho' : o ∈ cs ++ [c] := List.mem_append_left _ ho
      have hto := h.rank_lt ho ht
      have hodrop := h.dropLast_eq ho ht
      have hqdrop := hall.dropLast_eq hq (hu.append [c])
      have hstem : t.stem o.key = u.stem o.key := by
        rw [← hodrop, ← hdrop, hqdrop, hkey]
      rcases Nat.lt_trichotomy t.rank u.rank with hrank | hrank | hrank
      · -- the request of `q` was made by a call that `q` repeats: `o` is higher than that one
        obtain ⟨p, hp, hid, hpkey, rfl, hpdrop, v, hv⟩ :=
          h.exists_of_stem_eq hu ht hstem.symm hrank
        have hsame : o.trail.dropLast = p.trail.dropLast := by
          rw [hodrop, hstem, hpdrop]
        exact ih p o q v t hp ho' hq hid.symm (hkey.trans hpkey.symm) hpkey.symm hsame hv ht hrank
          hlow (by omega)
      · have hrequests : q.request = o.request :=
          h.opens_inj hnodup (Trail.eq_of_rank hstem hrank ▸ hu) ht
        have hservice := hservices o ho' q hq hrequests hkey
        have hsub := hall.sublist_of_rank_lt ho' hq hservice hrequests hkey hlt
        exact hfolds o q e ⟨hsub, hrequests, hkey, he, hrequest, hekey⟩
      · -- the request of `o` was made by a call that `o` repeats: that one is lower than `q`
        obtain ⟨p, hp, hid, hpkey, rfl, hpdrop, v, hv⟩ := h.exists_of_stem_eq ht hu hstem hrank
        have hsame : q.trail.dropLast = p.trail.dropLast := by
          rw [hdrop, hodrop, hpdrop]
        exact ih p q o v u hp hq ho' hid.symm hpkey.symm (hkey.trans hpkey.symm) hsame hv hu hrank
          (Nat.lt_trans hto hlt) (by omega)

/-- Two calls of one slot with the same trail are the same. -/
theorem Named.eq_of_isIn (h : Named root base cs) {p q : Call} (hp : p ∈ cs) (hq : q ∈ cs)
    (hin : q.isIn p.service p.request p.key = true) (heq : q.trail = p.trail) : q = p := by
  obtain ⟨t, ht⟩ := h.exists_opens hp
  obtain ⟨i, hi⟩ := exists_slot_getElem hp p.isIn_self
  obtain ⟨j, hj⟩ := exists_slot_getElem hq hin
  obtain ⟨m, hm, hmi⟩ := h.slot_getElem ht hi
  obtain ⟨n, hn, hnj⟩ := h.slot_getElem ht hj
  obtain ⟨-, -, hnm⟩ := Trail.extend_inj (hn.symm.trans (heq.trans hm))
  have hij : j = i := by
    rw [hnm] at hnj
    omega
  rw [hij, hi] at hj
  exact (Option.some.inj hj).symm

/-- A call that is named last has a trail of its own. -/
theorem Named.trail_ne (hall : Named root base (cs ++ [c])) (h : Named root base cs)
    (hnodup : (cs.map (·.trail)).Nodup) (hservices : KeysTellServices (cs ++ [c]))
    (hfolds : ∀ p q e, ¬ Folds (cs ++ [c]) p q e) {t : Trail}
    (ht : Opens root base cs c.request t) {q : Call} (hq : q ∈ cs) : q.trail ≠ c.trail := by
  intro heq
  have hc : c ∈ cs ++ [c] := List.mem_append_right cs (List.mem_singleton_self c)
  have hq' : q ∈ cs ++ [c] := List.mem_append_left _ hq
  obtain ⟨u, hu⟩ := h.exists_opens hq
  obtain ⟨m, hm, -⟩ := h.exists_extend hq hu
  obtain ⟨n, hn, -⟩ := hall.exists_extend hc (ht.append [c])
  obtain ⟨hstem, hkey, -⟩ := Trail.extend_inj ((hm.symm.trans heq).trans hn)
  rw [hkey] at hstem
  have hqu := h.rank_lt hq hu
  have hqdrop := h.dropLast_eq hq hu
  have hct := hall.rank_lt hc (ht.append [c])
  have hcdrop := hall.dropLast_eq hc (ht.append [c])
  rcases Nat.lt_trichotomy t.rank u.rank with hrank | hrank | hrank
  · obtain ⟨p, hp, hid, hpkey, rfl, hpdrop, v, hv⟩ := h.exists_of_stem_eq hu ht hstem hrank
    have hsame : c.trail.dropLast = p.trail.dropLast := by
      rw [hcdrop, ← hstem, hpdrop]
    exact hall.not_reentered h hnodup hservices hfolds _ p c q v t hp hc hq' hid.symm
      (hkey.trans hpkey.symm) hpkey.symm hsame hv ht hrank (heq ▸ hqu) (Nat.lt_succ_self _)
  · have hrequests : q.request = c.request :=
      h.opens_inj hnodup (Trail.eq_of_rank hstem hrank.symm ▸ hu) ht
    have hservice := hservices c hc q hq' hrequests hkey
    have hqc : q = c := hall.eq_of_isIn hc hq' (isIn_iff.2 ⟨hservice, hrequests, hkey⟩) heq
    have hids := hall.nodup_ids.1
    rw [List.map_append, List.nodup_append] at hids
    exact hids.2.2 q.id (List.mem_map_of_mem hq) c.id (by simp) (congrArg Call.id hqc)
  · obtain ⟨p, hp, hid, hpkey, rfl, hpdrop, v, hv⟩ :=
      h.exists_of_stem_eq ht hu hstem.symm hrank
    have hsame : q.trail.dropLast = p.trail.dropLast := by
      rw [hqdrop, hkey, hstem, hpdrop]
    exact hall.not_reentered h hnodup hservices hfolds _ p q c v u hp hq' hc hid.symm hpkey.symm
      (hkey.trans hpkey.symm) hsame hv hu hrank (heq.symm ▸ hct) (Nat.lt_succ_self _)

theorem Folds.append {p q e : Call} (h : Folds cs p q e) (cs' : List Call) :
    Folds (cs ++ cs') p q e := by
  obtain ⟨hsub, hrequest, hkey, he, hrest⟩ := h
  exact ⟨hsub.trans (List.sublist_append_left cs cs'), hrequest, hkey,
    List.mem_append_left cs' he, hrest⟩

theorem Named.nodup_trails (h : Named root base cs) (hservices : KeysTellServices cs)
    (hfolds : ∀ p q e, ¬ Folds cs p q e) : (cs.map (·.trail)).Nodup := by
  induction h with
  | nil => exact List.nodup_nil
  | @snoc cs c t n hcs hid hroot hopens htrail hcount ih =>
      have hnodup : (cs.map (·.trail)).Nodup := by
        refine ih ?_ fun p q e hpqe => hfolds p q e (hpqe.append [c])
        intro p hp q hq
        exact hservices p (List.mem_append_left _ hp) q (List.mem_append_left _ hq)
      rw [List.map_append, List.nodup_append]
      refine ⟨hnodup, by simp, ?_⟩
      intro a ha b hb
      obtain ⟨q, hq, rfl⟩ := List.mem_map.1 ha
      obtain rfl : b = c.trail := by simpa using hb
      exact (Named.snoc hcs hid hroot hopens htrail hcount).trail_ne hcs hnodup hservices hfolds
        hopens hq

end

/-- The first call of a slot takes the count after the largest one of its request's trail. -/
theorem Named.exists_first (h : Named root base cs) {c : Call} (hc : c ∈ cs) {t : Trail}
    (ht : Opens root base cs c.request t) :
    ∃ d ∈ cs, d.isIn c.service c.request c.key = true ∧ ∃ n : UInt64,
      d.trail = t.extend c.key n ∧ n.toNat = t.maxCount c.key + 1 := by
  obtain ⟨j, hj⟩ := exists_slot_getElem hc c.isIn_self
  have hpos : 0 < (slot c.service c.request c.key cs).length := by
    have := (List.getElem?_eq_some_iff.1 hj).1
    omega
  have hfirst := List.getElem?_eq_getElem hpos
  obtain ⟨n, hn, hcount⟩ := h.slot_getElem ht hfirst
  have hmem := List.mem_filter.1 (List.getElem_mem hpos)
  exact ⟨_, hmem.1, hmem.2, n, hn, hcount⟩

theorem Named.keysTellServices (h : Named root base cs) (hnodup : (cs.map (·.trail)).Nodup) :
    KeysTellServices cs := by
  intro p hp q hq hrequest hkey
  obtain ⟨t, ht⟩ := h.exists_opens hp
  obtain ⟨d, hd, hdin, m, hm, hmcount⟩ := h.exists_first hp ht
  obtain ⟨e, he, hein, n, hn, hncount⟩ := h.exists_first hq (hrequest ▸ ht)
  have hmn : n = m := by
    apply UInt64.toNat_inj.1
    rw [hmcount, hncount, hkey]
  have hed : e = d := List.inj_on_of_nodup_map hnodup he hd (by rw [hn, hm, hmn, hkey])
  rw [← (isIn_iff.1 hein).1, ← (isIn_iff.1 hdin).1, hed]

theorem Named.not_folds (h : Named root base cs) (hnodup : (cs.map (·.trail)).Nodup)
    (p q e : Call) : ¬ Folds cs p q e := by
  rintro ⟨hsub, hrequest, hkey, he, hunder, hekey⟩
  have hp : p ∈ cs := hsub.subset (by simp)
  have hq : q ∈ cs := hsub.subset (by simp)
  have hservice := h.keysTellServices hnodup p hp q hq hrequest hkey
  obtain ⟨t, ht⟩ := h.exists_opens hp
  obtain ⟨i, j, hij, hi, hj⟩ := exists_getElem?_of_sublist hsub p.isIn_self
    (isIn_iff.2 ⟨hservice, hrequest, hkey⟩)
  have hnext : i + 1 < (slot p.service p.request p.key cs).length := by
    have := (List.getElem?_eq_some_iff.1 hj).1
    omega
  have hr := List.getElem?_eq_getElem hnext
  obtain ⟨m, hm, hmcount⟩ := h.slot_getElem ht hi
  obtain ⟨n, hn, hncount⟩ := h.slot_getElem ht hr
  have hrmem := List.mem_filter.1 (List.getElem_mem hnext)
  obtain ⟨d, hd, hdin, k, hk, hkcount⟩ :=
    h.exists_first he (.inr ⟨p, hp, hunder.symm, rfl⟩)
  have hkn : k = n := by
    apply UInt64.toNat_inj.1
    rw [hkcount, hekey, hm, Trail.maxCount_extend (by omega)]
    omega
  have hdr := List.inj_on_of_nodup_map hnodup hd hrmem.1
    (by rw [hk, hn, hkn, hm, hekey, Trail.extend_extend])
  have hdrequest := (isIn_iff.1 hdin).2.1
  rw [hdr, (isIn_iff.1 hrmem.2).2.1, hunder] at hdrequest
  exact h.request_ne_id hp hdrequest

/-- The trails of the calls are pairwise different exactly where keys tell services apart and no
call is repeated both beside and under another one. -/
theorem Named.nodup_trails_iff (h : Named root base cs) :
    (cs.map (·.trail)).Nodup ↔ KeysTellServices cs ∧ ∀ p q e, ¬ Folds cs p q e :=
  ⟨fun hnodup => ⟨h.keysTellServices hnodup, h.not_folds hnodup⟩,
    fun hboth => h.nodup_trails hboth.1 hboth.2⟩

end Call

end Faultline
