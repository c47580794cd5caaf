import Faultline.Proofs.Tree.Basic

/-!
# The counters of a tree

For each service and each request that is open, the index in the state has the trail of the
request, and its counter of a key is the largest count of the key in that trail plus the number of
calls that were named with it (`Counts`).  An index that is not there yet counts as the one that
its first call brings along.
-/

namespace Faultline

variable {σ : Type} {root : String} {base : Trail} {cs : List Call}

namespace Call

/-- An index has the trail of its request and counts the calls of a service. -/
structure Counted (cs : List Call) (service request : String) (u : Trail) (i : Index) : Prop where
  trail : i.trail = u
  counter : ∀ key, (i.counter key).toNat = u.maxCount key + (slot service request key cs).length

theorem slot_eq_nil {service request key : String}
    (h : ∀ p ∈ cs, p.service = service → p.request ≠ request) :
    slot service request key cs = [] := by
  rw [slot, List.filter_eq_nil_iff]
  intro p hp hin
  obtain ⟨hservice, hrequest, -⟩ := isIn_iff.1 hin
  exact h p hp hservice hrequest

/-- Before there are calls, the index that the request came with counts them. -/
theorem counted_ofTrail {service request : String} (u : Trail)
    (h : ∀ p ∈ cs, p.service = service → p.request ≠ request) :
    Counted cs service request u (.ofTrail u) where
  trail := Index.trail_ofTrail u
  counter := fun key => by
    rw [slot_eq_nil h, Index.counter_ofTrail, List.length_nil, Nat.add_zero]

/-- An index that names a call has counted it. -/
theorem Counted.concat {c : Call} {u : Trail} {i after : Index} {n : UInt64}
    (hi : Counted cs c.service c.request u i) (hn : n.toNat = (i.counter c.key).toNat + 1)
    (htrail : after.trail = i.trail)
    (hcounter : ∀ key, after.counter key = if key = c.key then n else i.counter key) :
    Counted (cs ++ [c]) c.service c.request u after where
  trail := htrail.trans hi.trail
  counter := fun key => by
    rw [hcounter, slot_concat, List.length_append]
    by_cases hkey : key = c.key
    · rw [if_pos hkey, hkey, if_pos c.isIn_self, hn, hi.counter]
      rfl
    · rw [if_neg hkey, if_neg fun hin => hkey (isIn_iff.1 hin).2.2.symm, hi.counter]
      rfl

/-- A call of another service or request is not counted. -/
theorem Counted.concat_of_ne {c : Call} {service request : String} {u : Trail} {i : Index}
    (hi : Counted cs service request u i) (hne : ¬ (service = c.service ∧ request = c.request)) :
    Counted (cs ++ [c]) service request u i where
  trail := hi.trail
  counter := fun key => by
    rw [hi.counter, slot_concat, if_neg, List.append_nil]
    intro hin
    obtain ⟨hservice, hrequest, -⟩ := isIn_iff.1 hin
    exact hne ⟨hservice.symm, hrequest.symm⟩

theorem opens_concat {c : Call} {request : String} {t : Trail}
    (h : Opens root base (cs ++ [c]) request t) :
    Opens root base cs request t ∨ c.id = request ∧ c.trail = t := by
  rcases h with h | ⟨p, hp, hid, ht⟩
  · exact .inl (.inl h)
  · rcases List.mem_append.1 hp with hp | hp
    · exact .inl (.inr ⟨p, hp, hid, ht⟩)
    · obtain rfl := List.mem_singleton.1 hp
      exact .inr ⟨hid, ht⟩

/-- A fresh id opens nothing. -/
theorem Opens.ne_of_fresh {request id : String} {t : Trail} (h : Opens root base cs request t)
    (hid : ∀ p ∈ cs, p.id ≠ id) (hroot : id ≠ root) : request ≠ id := by
  rintro rfl
  rcases h with ⟨hr, -⟩ | ⟨p, hp, hp', -⟩
  · exact hroot hr
  · exact hid p hp hp'

end Call

namespace State

/-- The indexes of a state count the calls of the requests that are open. -/
def Counts (s : State) (root : String) (base : Trail) (cs : List Call) : Prop :=
  ∀ service request u, Call.Opens root base cs request u →
    Call.Counted cs service request u ((s.index? service request).getD (.ofTrail u))

/-- A service starts over where it has named no call. -/
theorem Counts.startOver {s : State} (hs : s.Counts root base cs) {first : Bool} {service : String}
    (hfirst : first = true → ∀ p ∈ cs, p.service ≠ service) :
    (s.startOver first service).Counts root base cs := by
  intro service' request u hu
  cases first with
  | false => exact hs service' request u hu
  | true =>
      simp only [State.startOver, if_true, index?_clearService]
      by_cases hservice : service' = service
      · rw [if_pos hservice, Option.getD_none]
        exact Call.counted_ofTrail u fun p hp hp' =>
          absurd (hp'.trans hservice) (hfirst rfl p hp)
      · rw [if_neg hservice]
        exact hs service' request u hu

/-- A client fills the slot of its request with the index that the request came with. -/
theorem Counts.arrive {s : State} (hs : s.Counts root base cs) (hcs : Call.Named root base cs)
    {c : Client} {u : Trail} (hu : Call.Opens root base cs c.requestId u)
    (hc : c.incomingIndex = .ofTrail u) : (c.arrive s).2.Counts root base cs := by
  intro service request v hv
  rw [Client.index?_arrive]
  by_cases hpair : service = c.callsite.service ∧ request = c.requestId
  · obtain ⟨rfl, rfl⟩ := hpair
    obtain rfl := hcs.opens_unique hu hv
    rw [if_pos ⟨rfl, rfl⟩, Option.getD_some, hc]
    exact hs _ _ u hu
  · rw [if_neg hpair]
    exact hs service request v hv

end State

namespace Client

variable {h : Harness σ} {c : Client} {s s' : State} {i named : Index}

/-- A name is given by the index of the request, which goes on. -/
theorem exists_name_of_nameIn (hi : s.index? c.callsite.service c.requestId = some i)
    (hname : c.nameIn h s = (.ok named, s')) :
    ∃ after, i.name (Key.ofCallsite c.callsite h.config.digesting) = .ok (named, after) ∧
      ∀ service request, s'.index? service request =
        if service = c.callsite.service ∧ request = c.requestId then some after
        else s.index? service request := by
  have hfst := nameIn_fst h c s
  have hindex := fun service request => index?_nameIn h c s service request
  rw [hname] at hfst
  simp only [hname, hi, Option.getD_some] at hfst hindex
  unfold nameFrom at hfst hindex
  cases hrun : i.name (Key.ofCallsite c.callsite h.config.digesting) with
  | error v =>
      rw [hrun] at hfst
      cases hfst
  | ok r =>
      rw [hrun] at hfst hindex
      obtain rfl : named = r.1 := Except.ok.inj hfst
      exact ⟨r.2, rfl, hindex⟩

/-- Where no name is given, the indexes are as before. -/
theorem index?_of_nameIn_error {v : Violation}
    (hi : s.index? c.callsite.service c.requestId = some i)
    (hname : c.nameIn h s = (.error v, s')) (service request : String) :
    s'.index? service request = s.index? service request := by
  have hfst := nameIn_fst h c s
  have hindex := index?_nameIn h c s service request
  rw [hname] at hfst
  simp only [hname, hi, Option.getD_some] at hfst hindex
  unfold nameFrom at hfst hindex
  cases hrun : i.name (Key.ofCallsite c.callsite h.config.digesting) with
  | ok r =>
      rw [hrun] at hfst
      cases hfst
  | error v =>
      rw [hrun] at hindex
      rw [hindex]
      split
      · rename_i hpair
        rw [hpair.1, hpair.2, hi]
      · rfl

end Client

/-- A client that is named adds a call to the tree, and the counters have counted it. -/
theorem State.Counts.named {s s' : State} (hs : s.Counts root base cs)
    (hcs : Call.Named root base cs) {h : Harness σ} {c : Client} {i named : Index} {u : Trail}
    (hu : Call.Opens root base cs c.requestId u)
    (hi : s.index? c.callsite.service c.requestId = some i)
    (hname : c.nameIn h s = (.ok named, s')) (hid : ∀ p ∈ cs, p.id ≠ c.outgoingId)
    (hroot : c.outgoingId ≠ root) (hblank : ∀ service, s.index? service c.outgoingId = none) :
    Call.Named root base (cs ++ [.ofClient h { c with index := named }]) ∧
      s'.Counts root base (cs ++ [.ofClient h { c with index := named }]) := by
  obtain ⟨after, hafter, hindex⟩ := Client.exists_name_of_nameIn hi hname
  obtain ⟨n, hn, htrail, htrail', hcounter⟩ := Index.name_spec hafter
  have hcounted := hs c.callsite.service c.requestId u hu
  rw [hi, Option.getD_some] at hcounted
  have hne := hu.ne_of_fresh hid hroot
  refine ⟨.snoc hcs hid hroot hu (n := n) ?_ ?_, ?_⟩
  · rw [← hcounted.trail]
    exact htrail
  · exact hn.trans (congrArg (· + 1) (hcounted.counter _))
  · intro service request v hv
    rw [hindex]
    rcases Call.opens_concat hv with hv | ⟨hmade, -⟩
    · by_cases hpair : service = c.callsite.service ∧ request = c.requestId
      · obtain ⟨rfl, rfl⟩ := hpair
        obtain rfl := hcs.opens_unique hu hv
        rw [if_pos ⟨rfl, rfl⟩, Option.getD_some]
        exact hcounted.concat (c := .ofClient h { c with index := named }) hn htrail' hcounter
      · rw [if_neg hpair]
        exact (hs service request v hv).concat_of_ne hpair
    · -- the request that the new call makes has no calls yet
      obtain rfl : c.outgoingId = request := hmade
      rw [if_neg fun hpair => hne hpair.2.symm, hblank service, Option.getD_none]
      apply Call.counted_ofTrail v
      intro p hp _
      rcases List.mem_append.1 hp with hp | hp
      · obtain ⟨t, ht⟩ := hcs.exists_opens hp
        exact ht.ne_of_fresh hid hroot
      · obtain rfl := List.mem_singleton.1 hp
        exact hne

end Faultline
