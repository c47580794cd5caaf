import Mathlib.Data.List.Induction
import Mathlib.Data.List.Perm.Subperm
import Faultline.Execution

/-!
# Plans as finite maps

Plans are compared entry by entry, but what they say is a finite map from trails to faults.
`Plan.same_iff` states that the comparison decides the equality of these maps, up to equality of
faults, for plans that name no trail twice; `Ledger.distinct_put` is why every plan is such a
plan.
-/

namespace Faultline

namespace Ledger

variable {κ α : Type} [DecidableEq κ]

/-- No key has two entries. -/
def Distinct (l : Ledger κ α) : Prop :=
  l.keys.Nodup

omit [DecidableEq κ] in
theorem distinct_empty : Distinct (empty : Ledger κ α) := List.nodup_nil

theorem distinct_put {l : Ledger κ α} (h : l.Distinct) (k : κ) (v : α) :
    (l.put k v).Distinct := by
  unfold Distinct at h ⊢
  rw [keys_put]
  split
  · exact h
  · next hk => exact List.nodup_append.2 ⟨h, by simp, by
      intro a ha b hb
      obtain rfl : b = k := by simpa using hb
      rintro rfl
      exact hk ha⟩

theorem find?_isSome_iff (k : κ) (es : List (κ × α)) :
    (find? k es).isSome = true ↔ k ∈ es.map (·.1) := by
  induction es with
  | nil => simp [find?]
  | cons e es ih =>
      obtain ⟨k', v⟩ := e
      by_cases h : k = k'
      · simp [find?, h]
      · simp [find?, h, ih]

theorem get?_isSome_iff {l : Ledger κ α} {k : κ} : (l.get? k).isSome = true ↔ k ∈ l.keys :=
  find?_isSome_iff k l.entries

theorem mem_of_find?_eq {k : κ} {v : α} {es : List (κ × α)} (h : find? k es = some v) :
    (k, v) ∈ es := by
  induction es with
  | nil => simp [find?] at h
  | cons e es ih =>
      obtain ⟨k', v'⟩ := e
      rw [find?] at h
      split at h
      · next hk =>
        subst hk
        obtain rfl := Option.some.inj h
        exact List.mem_cons_self
      · exact List.mem_cons_of_mem _ (ih h)

/-- The look-ups of a ledger without repeated keys are its entries. -/
theorem get?_eq_some_iff {l : Ledger κ α} (h : l.Distinct) {k : κ} {v : α} :
    l.get? k = some v ↔ (k, v) ∈ l.entries := by
  refine ⟨mem_of_find?_eq, ?_⟩
  obtain ⟨es⟩ := l
  unfold Distinct keys at h
  simp only [get?]
  intro hmem
  induction es with
  | nil => simp at hmem
  | cons e es ih =>
      obtain ⟨k', v'⟩ := e
      obtain ⟨hnew, hrest⟩ := List.nodup_cons.1 h
      rcases List.mem_cons.1 hmem with heq | htail
      · obtain ⟨rfl, rfl⟩ := Prod.mk.inj heq
        simp [find?]
      · have hne : k ≠ k' := by
          rintro rfl
          exact hnew (List.mem_map.2 ⟨_, htail, rfl⟩)
        rw [find?, if_neg hne]
        exact ih hrest htail

theorem mem_entries_put {l : Ledger κ α} (h : l.Distinct) {k k' : κ} {v v' : α} :
    (k', v') ∈ (l.put k v).entries ↔ k' = k ∧ v' = v ∨ k' ≠ k ∧ (k', v') ∈ l.entries := by
  rw [← get?_eq_some_iff (distinct_put h k v), get?_put, ← get?_eq_some_iff h]
  by_cases hk : k' = k
  · simp [hk, eq_comm]
  · simp [hk]

/-- Entries of different keys are all found after they were put in. -/
theorem get?_putAll (l : Ledger κ α) {es : List (κ × α)} (h : (es.map (·.1)).Nodup) (k : κ) :
    (l.putAll es).get? k = (find? k es).or (l.get? k) := by
  induction es generalizing l with
  | nil => rfl
  | cons e es ih =>
      obtain ⟨hnew, hrest⟩ := List.nodup_cons.1 h
      rw [putAll, List.foldl_cons, ← putAll, ih (l.put e.1 e.2) hrest, get?_put, find?]
      by_cases hk : k = e.1
      · have hnone : find? k es = none := by
          rw [← Option.not_isSome_iff_eq_none, find?_isSome_iff, hk]
          exact hnew
        rw [if_pos hk, if_pos hk, hnone]
        rfl
      · rw [if_neg hk, if_neg hk]

/-- The value that was put in last for a key. -/
def latest? (k : κ) (es : List (κ × α)) : Option α :=
  ((es.filter fun e => e.1 = k).getLast?).map (·.2)

theorem latest?_concat (k : κ) (es : List (κ × α)) (e : κ × α) :
    latest? k (es ++ [e]) = if k = e.1 then some e.2 else latest? k es := by
  rw [latest?, List.filter_append]
  by_cases h : e.1 = k
  · simp [h]
  · simp [h, Ne.symm h, latest?]

theorem putAll_concat (l : Ledger κ α) (es : List (κ × α)) (e : κ × α) :
    l.putAll (es ++ [e]) = (l.putAll es).put e.1 e.2 := by
  rw [putAll, List.foldl_append]
  rfl

theorem distinct_putAll {l : Ledger κ α} (h : l.Distinct) (es : List (κ × α)) :
    (l.putAll es).Distinct := by
  induction es using List.reverseRecOn with
  | nil => exact h
  | append_singleton es e ih =>
      rw [putAll_concat]
      exact distinct_put ih e.1 e.2

theorem eraseDups_concat {ι : Type} [BEq ι] [LawfulBEq ι] (ks : List ι) (k : ι)
    [Decidable (k ∈ ks)] :
    (ks ++ [k]).eraseDups = if k ∈ ks then ks.eraseDups else ks.eraseDups ++ [k] := by
  rw [List.eraseDups_append]
  by_cases h : k ∈ ks <;> simp [List.removeAll, h, List.eraseDups_cons]

/-- Keys stay in the order in which they came first. -/
theorem keys_putAll [BEq κ] [LawfulBEq κ] (es : List (κ × α)) :
    ((empty : Ledger κ α).putAll es).keys = (es.map (·.1)).eraseDups := by
  induction es using List.reverseRecOn with
  | nil => rfl
  | append_singleton es e ih =>
      rw [putAll_concat, keys_put, ih, List.map_append, List.map_singleton, eraseDups_concat]
      simp only [List.mem_eraseDups]

theorem get?_putAll_empty (es : List (κ × α)) (k : κ) :
    ((empty : Ledger κ α).putAll es).get? k = latest? k es := by
  induction es using List.reverseRecOn with
  | nil => rfl
  | append_singleton es e ih => rw [putAll_concat, get?_put, ih, latest?_concat]

theorem find?_map {β : Type} (f : α → β) (k : κ) (es : List (κ × α)) :
    find? k (es.map fun e => (e.1, f e.2)) = (find? k es).map f := by
  induction es with
  | nil => rfl
  | cons e es ih =>
      simp only [List.map_cons, find?, ih]
      split <;> rfl

/-- Two ledgers agree exactly when they have the same keys with the same values. -/
theorem agrees_iff {same : α → α → Bool} {l m : Ledger κ α} (hl : l.Distinct) (hm : m.Distinct) :
    l.agrees same m = true ↔ ∀ k, Option.Rel (same · · = true) (l.get? k) (m.get? k) := by
  simp only [agrees, Bool.and_eq_true, beq_iff_eq, List.all_eq_true]
  constructor
  · rintro ⟨hlength, hentries⟩ k
    have hsub : l.keys ⊆ m.keys := by
      intro k hk
      obtain ⟨e, he, rfl⟩ := List.mem_map.1 hk
      have := hentries e he
      apply get?_isSome_iff.1
      cases h : m.get? e.1 <;> simp_all
    have hperm : l.keys.Perm m.keys :=
      (List.subperm_of_subset hl hsub).perm_of_length_le (by simp [keys, hlength])
    cases hk : l.get? k with
    | none =>
        have hnone : m.get? k = none := by
          rw [← Option.not_isSome_iff_eq_none, get?_isSome_iff, ← hperm.mem_iff,
            ← get?_isSome_iff, hk]
          simp
        rw [hnone]
        exact .none
    | some v =>
        have hv := hentries (k, v) ((get?_eq_some_iff hl).1 hk)
        cases hw : m.get? k with
        | none => simp [hw] at hv
        | some w => exact .some (by simpa [hw] using hv)
  · intro h
    have hkeys : ∀ k, k ∈ l.keys ↔ k ∈ m.keys := by
      intro k
      have hrel := h k
      rw [← get?_isSome_iff, ← get?_isSome_iff]
      generalize l.get? k = a at hrel ⊢
      generalize m.get? k = b at hrel ⊢
      cases hrel <;> simp
    have hperm : l.keys.Perm m.keys := (List.perm_ext_iff_of_nodup hl hm).2 hkeys
    refine ⟨by simpa [keys] using hperm.length_eq, ?_⟩
    intro e he
    have hrel := h e.1
    rw [(get?_eq_some_iff hl (v := e.2)).2 he] at hrel
    cases hw : m.get? e.1 with
    | none => rw [hw] at hrel; cases hrel
    | some w => rw [hw] at hrel; cases hrel with | some hsame => exact hsame

end Ledger

namespace Json

mutual

theorem same_refl : ∀ j : Json, same j j = true
  | null => rfl
  | bool b => by simp [same]
  | int n => by simp [same]
  | float x => by simp [same, Binary64.same_refl]
  | str s => by simp [same]
  | arr items => by simp [same, sameItems_refl items]
  | obj members => by simp [same, sameMembers_refl members]

theorem sameItems_refl : ∀ js : List Json, sameItems js js = true
  | [] => rfl
  | j :: js => by simp [sameItems, same_refl j, sameItems_refl js]

theorem sameMembers_refl : ∀ ms : List (String × Json), sameMembers ms ms = true
  | [] => rfl
  | (k, j) :: ms => by simp [sameMembers, same_refl j, sameMembers_refl ms]

end

end Json

namespace Fault

theorem same_refl (f : Fault) : f.same f = true := by
  have hjson : ∀ j : Json, (j == j) = true := Json.same_refl
  cases f with
  | exception e => simp [same, ForcedException.same, Json.sameMembers_refl]
  | failure metadata => simp [same, hjson]
  | byzantine b => simp [same, hjson]
  | transformer t => simp [same, hjson]

theorem sameOption_eq_true_iff {f g : Option Fault} :
    sameOption f g = true ↔ Option.Rel (same · · = true) f g := by
  cases f <;> cases g <;> simp [sameOption]

end Fault

namespace Plan

/-- The same faults at the same trails, as finite maps. -/
def Agrees (p q : Plan) : Prop :=
  ∀ t, Fault.sameOption (p.get? t) (q.get? t) = true

theorem same_iff {p q : Plan} (hp : p.Distinct) (hq : q.Distinct) :
    p.same q = true ↔ p.Agrees q := by
  simp only [same, Ledger.agrees_iff hp hq, Agrees, Fault.sameOption_eq_true_iff]

theorem same_refl {p : Plan} (hp : p.Distinct) : p.same p = true := by
  rw [same_iff hp hp]
  intro t
  cases p.get? t with
  | none => rfl
  | some f => exact Fault.same_refl f

end Plan

end Faultline
