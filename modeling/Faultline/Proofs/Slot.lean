import Faultline.Proofs.Index
import Faultline.Proofs.Operation

/-!
# The index of a request

The index of a request names one call after the other.  What it shows stays the same; the counter
of a key goes on with every name for that key, until it is full (`GoesOn`).  So the name of a call
depends on the index that the request began with and on how often the key came before
(`nameAfter`), and no name is given twice.
-/

namespace Faultline

/-- What holds at every place of a list, and at a new end of it, holds at every place of the longer
list. -/
theorem forall_split_concat {α : Type} {P : List α → α → Prop} {l : List α} {x : α}
    (hl : ∀ before y after, l = before ++ y :: after → P before y) (hx : P l x) :
    ∀ before y after, l ++ [x] = before ++ y :: after → P before y := by
  intro before y after hsplit
  rcases List.eq_nil_or_concat after with rfl | ⟨after, last, rfl⟩
  · obtain ⟨rfl, hy⟩ := List.append_inj' hsplit rfl
    obtain rfl : x = y := by simpa using hy
    exact hx
  · rw [List.concat_eq_append, ← List.cons_append, ← List.append_assoc] at hsplit
    exact hl before y after (List.append_inj' hsplit rfl).1

namespace Index

/-- The index has given names for the keys, or tried to. -/
structure GoesOn (b : Index) (keys : List String) (i : Index) : Prop where
  trail : i.trail = b.trail
  counter : ∀ k, (i.counter k).toNat = min ((b.counter k).toNat + keys.count k) (UInt64.size - 1)

/-- The name for a key, after names for other keys; there is none once the counter is full. -/
def nameAfter (b : Index) (keys : List String) (key : String) : Option Trail :=
  if (b.counter key).toNat + keys.count key + 1 < UInt64.size then
    some (b.trail.extend key (.ofNat ((b.counter key).toNat + keys.count key + 1)))
  else none

theorem GoesOn.refl (b : Index) : b.GoesOn [] b := by
  refine ⟨rfl, fun k => ?_⟩
  have hlt := (b.counter k).toNat_lt_size
  rw [List.count_nil]
  omega

variable {b i : Index} {keys : List String}

/-- Another key leaves the counter of a key alone. -/
theorem GoesOn.counter_concat (hi : b.GoesOn keys i) {k key : String} (hk : k ≠ key) :
    (i.counter k).toNat =
      min ((b.counter k).toNat + (keys ++ [key]).count k) (UInt64.size - 1) := by
  rw [hi.counter k, List.count_append, List.count_singleton, if_neg (by simpa using hk.symm)]
  rfl

/-- A name raises the counter of its key. -/
theorem GoesOn.name (hi : b.GoesOn keys i) {key : Key} {named after : Index}
    (h : i.name key = .ok (named, after)) :
    b.nameAfter keys key.rendered = some named.trail ∧
      b.GoesOn (keys ++ [key.rendered]) after := by
  obtain ⟨n, hn, hnamed, htrail, hafter⟩ := name_spec h
  have hbound := n.toNat_lt_size
  have hcounter := hi.counter key.rendered
  refine ⟨?_, htrail.trans hi.trail, fun k => ?_⟩
  · have hnumber : n = .ofNat ((b.counter key.rendered).toNat + keys.count key.rendered + 1) := by
      apply UInt64.toNat_inj.1
      rw [UInt64.toNat_ofNat_of_lt' (by omega)]
      omega
    rw [nameAfter, if_pos (by omega), ← hnumber, ← hi.trail, hnamed]
  · rw [hafter k]
    by_cases hk : k = key.rendered
    · subst hk
      rw [if_pos rfl, List.count_append, List.count_singleton_self]
      omega
    · rw [if_neg hk]
      exact hi.counter_concat hk

theorem name_of_full {key : Key} (hfull : i.counter key.rendered = 0xFFFFFFFFFFFFFFFF) :
    i.name key = .error .overflow := by
  simp only [name, push, if_pos hfull]
  rfl

/-- A full counter gives no name and stays full. -/
theorem GoesOn.full (hi : b.GoesOn keys i) {key : String}
    (hfull : i.counter key = 0xFFFFFFFFFFFFFFFF) :
    b.nameAfter keys key = none ∧ b.GoesOn (keys ++ [key]) i := by
  have hcounter := hi.counter key
  have hmax : (i.counter key).toNat = UInt64.size - 1 := by
    rw [hfull]
    rfl
  refine ⟨?_, hi.trail, fun k => ?_⟩
  · rw [nameAfter, if_neg (by omega)]
  · by_cases hk : k = key
    · subst hk
      rw [List.count_append, List.count_singleton_self]
      omega
    · exact hi.counter_concat hk

/-- A name depends on how often its key came before. -/
theorem nameAfter_congr (b : Index) {keys keys' : List String} {key : String}
    (h : keys.count key = keys'.count key) : b.nameAfter keys key = b.nameAfter keys' key := by
  rw [nameAfter, nameAfter, h]

/-- A name that comes later is another one. -/
theorem nameAfter_ne {b : Index} {keys keys' : List String} {key key' : String} {t t' : Trail}
    (ht : b.nameAfter keys key = some t) (hkeys : (keys ++ [key]).Sublist keys')
    (ht' : b.nameAfter keys' key' = some t') : t ≠ t' := by
  rintro rfl
  unfold nameAfter at ht ht'
  split at ht
  · split at ht'
    · rename_i hlt hlt'
      have hextend := (Option.some.inj ht).trans (Option.some.inj ht').symm
      obtain ⟨-, rfl, hcount⟩ := Trail.extend_inj hextend
      have hnumber := congrArg UInt64.toNat hcount
      rw [UInt64.toNat_ofNat_of_lt' hlt, UInt64.toNat_ofNat_of_lt' hlt'] at hnumber
      have hle := hkeys.count_le key
      rw [List.count_append, List.count_singleton_self] at hle
      omega
    · cases ht'
  · cases ht

end Index

namespace Client

variable {σ : Type}

/-- The key of the call. -/
def key (h : Harness σ) (c : Client) : String :=
  (Key.ofCallsite c.callsite h.config.digesting).rendered

/-- The next name from an index that has given names for some keys. -/
theorem nameFrom_spec (h : Harness σ) (c : Client) {b i : Index} {keys : List String}
    (hi : b.GoesOn keys i) :
    (c.nameFrom h i).1.toOption.map (·.trail) = b.nameAfter keys (c.key h) ∧
      b.GoesOn (keys ++ [c.key h]) (c.nameFrom h i).2 := by
  by_cases hfull : i.counter (c.key h) = 0xFFFFFFFFFFFFFFFF
  · obtain ⟨hnone, hgoes⟩ := hi.full hfull
    simp only [nameFrom, Index.name_of_full hfull]
    exact ⟨hnone.symm, hgoes⟩
  · obtain ⟨after, hname, -, -⟩ := Index.exists_name hfull
    obtain ⟨hsome, hgoes⟩ := hi.name hname
    simp only [nameFrom, hname]
    exact ⟨hsome.symm, hgoes⟩

/-! ### Operations that ask for a name -/

variable {α : Type}

/-- The index that an operation hands out; none if it breaks off. -/
def handedOut (a : Act σ α) (s : Session σ) : Option Trail :=
  match a s with
  | .ok _ s => some s.client.index.trail
  | .error _ _ => none

theorem handedOut_bind_pure {β : Type} (a : Act σ α) (f : α → β) (s : Session σ) :
    handedOut (do return f (← a)) s = handedOut a s := by
  unfold handedOut
  rw [bind_apply]
  cases a s <;> rfl

/-- An operation asks for a name at the pair of a client, in a state where an empty slot is filled
with `fill`. -/
structure Touches (h : Harness σ) (a : Act σ α) (s : Session σ) (c : Client) (state : State)
    (fill : Index) : Prop where
  handedOut : handedOut a s = (c.nameFrom h
    ((state.index? c.callsite.service c.requestId).getD fill)).1.toOption.map (·.trail)
  trail : (after a s).client.index.trail = (Client.handedOut a s).getD s.client.index.trail
  index? : ∀ service request, (after a s).world.state.index? service request =
    if service = c.callsite.service ∧ request = c.requestId
    then some (c.nameFrom h ((state.index? c.callsite.service c.requestId).getD fill)).2
    else state.index? service request

section

variable {β : Type} {h : Harness σ} {a : Act σ α} {s : Session σ} {c : Client} {state : State}
  {fill : Index}

theorem Touches.bind_pure (ha : Touches h a s c state fill) (f : α → β) :
    Touches h (do return f (← a)) s c state fill := by
  refine ⟨?_, ?_, ?_⟩
  · rw [handedOut_bind_pure, ha.handedOut]
  · rw [after_bind_pure, handedOut_bind_pure, ha.trail]
  · rw [after_bind_pure]
    exact ha.index?

/-- An operation does what another one does for a client with the same index. -/
theorem Touches.of_eq (ha : Touches h a s c state fill) {a' : Act σ α} {s' : Session σ}
    (heq : a' s' = a s) (hindex : s.client.index = s'.client.index) :
    Touches h a' s' c state fill := by
  have hafter : after a' s' = after a s := by rw [after, after, heq]
  have hname : Client.handedOut a' s' = Client.handedOut a s := by
    rw [Client.handedOut, Client.handedOut, heq]
  refine ⟨hname.trans ha.handedOut, ?_, ?_⟩
  · rw [hafter, hname, ← hindex, ha.trail]
  · rw [hafter]
    exact ha.index?

end

theorem touches_advance (h : Harness σ) (s : Session σ) :
    Touches h (advance h) s s.client s.world.state .empty := by
  have hadvance := advance_eq h s
  have hfst := s.client.nameIn_fst h s.world.state
  have hslot := s.client.index?_nameIn h s.world.state
  rcases hname : s.client.nameIn h s.world.state with ⟨v | named, state⟩ <;>
    rw [hname] at hadvance hfst hslot <;> dsimp only at hfst hslot
  · refine ⟨?_, ?_, ?_⟩
    · rw [handedOut, hadvance, ← hfst]
      rfl
    · rw [after_of_error hadvance, handedOut, hadvance]
      rfl
    · rw [after_of_error hadvance]
      exact hslot
  · refine ⟨?_, ?_, ?_⟩
    · rw [handedOut, hadvance, ← hfst]
      rfl
    · rw [after_of_ok hadvance, handedOut, hadvance]
      rfl
    · rw [after_of_ok hadvance]
      exact hslot

/-- A correction asks at the pair of the new callsite. -/
theorem touches_updateCallsite (h : Harness σ) (callsite : Callsite) {s : Session σ}
    (hs : s.client.phase = .prepared) :
    Touches h (updateCallsite h callsite) s { s.client with callsite } s.world.state .empty := by
  have hupdate := updateCallsite_eq h callsite s
  rw [if_pos hs] at hupdate
  exact (touches_advance h ⟨{ s.client with callsite }, s.world⟩).of_eq hupdate rfl

/-- A preparation that is not broken off by its greeting asks for a name last. -/
theorem prepare_of_greeting (h : Harness σ) {s : Session σ} (hs : s.client.phase = .created)
    {first : Bool} {w : World σ}
    (hgreet : h.greeting s.client.callsite.service s.world = .ok (first, w)) :
    let arrived := s.client.arrive (s.world.state.startOver first s.client.callsite.service)
    prepare h s = advance h ⟨{ s.client with phase := .prepared, clock := arrived.1 },
      ⟨arrived.2, w.source⟩⟩ := by
  have hstate := Harness.state_of_greeting hgreet
  obtain ⟨state, x⟩ := w
  obtain rfl : state = s.world.state := hstate
  simp only [prepare_of_created h ((Phase.canBecome_prepared_iff _).2 hs), hgreet]

/-- A preparation asks once its service has started over, and fills an empty slot with the index
that the request came with. -/
theorem touches_prepare (h : Harness σ) {s : Session σ} (hs : s.client.phase = .created)
    {first : Bool} {w : World σ}
    (hgreet : h.greeting s.client.callsite.service s.world = .ok (first, w)) :
    Touches h (prepare h) s s.client
      (s.world.state.startOver first s.client.callsite.service) s.client.incomingIndex := by
  have hprepare := prepare_of_greeting h hs hgreet
  generalize s.world.state.startOver first s.client.callsite.service = state at hprepare ⊢
  have hadvance := touches_advance h
    ⟨{ s.client with phase := .prepared, clock := (s.client.arrive state).1 },
      ⟨(s.client.arrive state).2, w.source⟩⟩
  have hfound : ((s.client.arrive state).2.index? s.client.callsite.service
      s.client.requestId).getD .empty =
      (state.index? s.client.callsite.service s.client.requestId).getD s.client.incomingIndex := by
    rw [index?_arrive, if_pos ⟨rfl, rfl⟩, Option.getD_some]
  have hname := hadvance.handedOut
  have hslot := hadvance.index?
  simp only [hfound] at hname hslot
  refine Touches.of_eq (c := s.client) ⟨hname, hadvance.trail, fun service request => ?_⟩
    hprepare rfl
  rw [hslot, index?_arrive]
  split <;> rfl

/-- A preparation puts no question but its greeting. -/
theorem source_after_prepare (h : Harness σ) {s : Session σ} (hs : s.client.phase = .created)
    {first : Bool} {w : World σ}
    (hgreet : h.greeting s.client.callsite.service s.world = .ok (first, w)) :
    (after (prepare h) s).world.source = w.source := by
  obtain ⟨index, state, hadvance⟩ := exists_after_advance h _
  rw [after, prepare_of_greeting h hs hgreet]
  exact congrArg (·.world.source) hadvance

end Client

end Faultline
