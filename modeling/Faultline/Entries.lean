/-!
# Entry lists in key order

Lists of key-value pairs whose keys increase strictly, as raw data: look-up, insertion that
replaces the value of a key already there, and removal.  The look-up lemmas need no order at all;
the order is kept by every operation.  Objects of JSON documents hold such a list directly, and
`Table` bundles one with its order.
-/

namespace Faultline.Entries

variable {α : Type}

/-- Every key is smaller than all keys behind it. -/
def Sorted (l : List (String × α)) : Prop :=
  l.Pairwise fun a b => a.1 < b.1

instance (l : List (String × α)) : Decidable (Sorted l) :=
  inferInstanceAs (Decidable (l.Pairwise fun a b => a.1 < b.1))

/-- The value of the first entry with the key. -/
def find? (k : String) : List (String × α) → Option α
  | [] => none
  | (k', v) :: r => if k = k' then some v else find? k r

/-- The list with the entry put where its key belongs, in place of one with the same key. -/
def insert (k : String) (v : α) : List (String × α) → List (String × α)
  | [] => [(k, v)]
  | (k', v') :: r =>
    if k < k' then (k, v) :: (k', v') :: r
    else if k = k' then (k, v) :: r
    else (k', v') :: insert k v r

/-- The list without the entries of the key. -/
def erase (k : String) (l : List (String × α)) : List (String × α) :=
  l.filter fun e => !decide (e.1 = k)

/-- The pairs inserted one after the other, so that the last pair of a key counts. -/
def ofPairs (l : List (String × α)) : List (String × α) :=
  l.foldl (fun acc e => insert e.1 e.2 acc) []

theorem find?_nil (k : String) : find? k ([] : List (String × α)) = none := rfl

theorem find?_insert (k k' : String) (v : α) (l : List (String × α)) :
    find? k' (insert k v l) = if k' = k then some v else find? k' l := by
  induction l with
  | nil => simp [insert, find?]
  | cons e r ih =>
    obtain ⟨k₀, v₀⟩ := e
    rw [insert]
    split
    · simp [find?]
    · split
      · next h => subst h; by_cases hk : k' = k <;> simp [find?, hk]
      · next h =>
        by_cases hk : k' = k
        · subst hk; simp [find?, h, ih]
        · simp [find?, hk, ih]

theorem find?_erase (k k' : String) (l : List (String × α)) :
    find? k' (erase k l) = if k' = k then none else find? k' l := by
  induction l with
  | nil => simp [erase, find?]
  | cons e r ih =>
    obtain ⟨k₀, v₀⟩ := e
    unfold erase at ih ⊢
    by_cases h : k₀ = k
    · subst h
      by_cases hk : k' = k₀ <;> simp [find?, hk] at ih ⊢ <;> exact ih
    · by_cases hk : k' = k
      · subst hk; simp [h, find?, Ne.symm h] at ih ⊢; exact ih
      · simp [h, find?, hk] at ih ⊢; rw [ih]

theorem mem_of_find? {k : String} {v : α} {l : List (String × α)} (h : find? k l = some v) :
    (k, v) ∈ l := by
  induction l with
  | nil => cases h
  | cons e r ih =>
      obtain ⟨k₀, v₀⟩ := e
      rw [find?] at h
      split at h
      · next hk =>
        obtain rfl := Option.some.inj h
        rw [hk]
        exact List.mem_cons_self
      · exact List.mem_cons_of_mem _ (ih h)

/-- In key order no key comes twice. -/
theorem find?_of_mem {k : String} {v : α} {l : List (String × α)} (hl : Sorted l)
    (h : (k, v) ∈ l) : find? k l = some v := by
  induction l with
  | nil => cases h
  | cons e r ih =>
    obtain ⟨k₀, v₀⟩ := e
    obtain ⟨hlt, hr⟩ := List.pairwise_cons.1 hl
    rw [find?]
    rcases List.mem_cons.1 h with heq | hmem
    · cases heq
      rw [if_pos rfl]
    · have hne : k ≠ k₀ := fun heq => String.lt_irrefl k₀ (heq ▸ hlt (k, v) hmem)
      rw [if_neg hne]
      exact ih hr hmem

theorem mem_insert {k : String} {v : α} {e : String × α} {l : List (String × α)}
    (h : e ∈ insert k v l) : e = (k, v) ∨ e ∈ l := by
  induction l with
  | nil => simpa [insert] using h
  | cons e₀ r ih =>
    rw [insert] at h
    split at h
    · simpa using h
    · split at h
      · rcases List.mem_cons.1 h with h | h
        · exact .inl h
        · exact .inr (List.mem_cons_of_mem _ h)
      · rcases List.mem_cons.1 h with h | h
        · exact .inr (h ▸ List.mem_cons_self)
        · exact (ih h).imp id (List.mem_cons_of_mem _)

theorem sorted_nil : Sorted ([] : List (String × α)) := List.Pairwise.nil

theorem sorted_insert {l : List (String × α)} (h : Sorted l) (k : String) (v : α) :
    Sorted (insert k v l) := by
  induction l with
  | nil => simp [insert, Sorted]
  | cons e r ih =>
    obtain ⟨k₀, v₀⟩ := e
    obtain ⟨h₁, h₂⟩ := List.pairwise_cons.1 h
    rw [insert]
    split
    · next hk =>
      refine List.pairwise_cons.2 ⟨fun b hb => ?_, h⟩
      rcases List.mem_cons.1 hb with rfl | hb
      · exact hk
      · exact String.lt_trans hk (h₁ b hb)
    · split
      · next hk => subst hk; exact List.pairwise_cons.2 ⟨h₁, h₂⟩
      · next hk₁ hk₂ =>
        refine List.pairwise_cons.2 ⟨fun b hb => ?_, ih h₂⟩
        rcases mem_insert hb with rfl | hb
        · exact Decidable.byContradiction fun hk₃ => hk₂ (String.le_antisymm hk₃ hk₁)
        · exact h₁ b hb

theorem sorted_erase {l : List (String × α)} (h : Sorted l) (k : String) : Sorted (erase k l) :=
  List.Pairwise.filter _ h

theorem sorted_ofPairs (l : List (String × α)) : Sorted (ofPairs l) := by
  have step : ∀ (l acc : List (String × α)), Sorted acc →
      Sorted (l.foldl (fun acc e => insert e.1 e.2 acc) acc) := by
    intro l
    induction l with
    | nil => exact fun _ h => h
    | cons e r ih => exact fun acc h => ih _ (sorted_insert h e.1 e.2)
  exact step l [] sorted_nil

/-- An entry goes behind all that have smaller keys. -/
theorem insert_append_of_forall_lt {k : String} {front : List (String × α)}
    (h : ∀ e ∈ front, e.1 < k) (v : α) (back : List (String × α)) :
    insert k v (front ++ back) = front ++ insert k v back := by
  induction front with
  | nil => rfl
  | cons e r ih =>
    obtain ⟨k₀, v₀⟩ := e
    have hk : k₀ < k := h (k₀, v₀) List.mem_cons_self
    have hnot : ¬k < k₀ := fun hlt => String.lt_irrefl k (String.lt_trans hlt hk)
    have hne : k ≠ k₀ := fun heq => String.lt_irrefl k (heq ▸ hk)
    rw [List.cons_append, insert, if_neg hnot, if_neg hne,
      ih fun e he => h e (List.mem_cons_of_mem _ he)]
    rfl

/-- An entry behind all others goes to the end. -/
theorem insert_of_forall_lt {k : String} {l : List (String × α)} (h : ∀ e ∈ l, e.1 < k) (v : α) :
    insert k v l = l ++ [(k, v)] := by
  simpa [insert] using insert_append_of_forall_lt h v []

/-- Pairs in key order are their own entries. -/
theorem ofPairs_of_sorted {l : List (String × α)} (h : Sorted l) : ofPairs l = l := by
  have step : ∀ (l acc : List (String × α)), Sorted (acc ++ l) →
      l.foldl (fun acc e => insert e.1 e.2 acc) acc = acc ++ l := by
    intro l
    induction l with
    | nil => simp
    | cons e r ih =>
      intro acc hsorted
      have hlt : ∀ a ∈ acc, a.1 < e.1 := fun a ha =>
        (List.pairwise_append.1 hsorted).2.2 a ha e List.mem_cons_self
      rw [List.foldl_cons, insert_of_forall_lt hlt, ih]
      · simp
      · simpa using hsorted
  exact step l [] h

end Faultline.Entries
