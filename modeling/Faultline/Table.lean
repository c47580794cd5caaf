import Faultline.Entries

/-!
# Tables

Finite maps from names to values, listed in key order.  The main statement, `Table.ext`, says that
a table is determined by its look-ups; the `get?_…` lemmas give the look-ups of each operation.
-/

namespace Faultline

/-- A finite map from names to values. -/
structure Table (α : Type) where
  entries : List (String × α)
  sorted : Entries.Sorted entries

namespace Table

variable {α : Type}

instance [DecidableEq α] : DecidableEq (Table α) := fun s t =>
  if h : s.entries = t.entries then
    .isTrue (by cases s; cases t; cases h; rfl)
  else
    .isFalse fun e => h (e ▸ rfl)

instance : Inhabited (Table α) := ⟨⟨[], Entries.sorted_nil⟩⟩

def empty : Table α := ⟨[], Entries.sorted_nil⟩

def isEmpty (t : Table α) : Bool :=
  t.entries.isEmpty

def get? (t : Table α) (k : String) : Option α :=
  Entries.find? k t.entries

def insert (t : Table α) (k : String) (v : α) : Table α :=
  ⟨Entries.insert k v t.entries, Entries.sorted_insert t.sorted k v⟩

def erase (t : Table α) (k : String) : Table α :=
  ⟨Entries.erase k t.entries, Entries.sorted_erase t.sorted k⟩

/-- The pairs inserted in order: the last pair of a name counts. -/
def ofList (l : List (String × α)) : Table α :=
  ⟨Entries.ofPairs l, Entries.sorted_ofPairs l⟩

/-- The entries in key order. -/
def toList (t : Table α) : List (String × α) :=
  t.entries

/-- The entry of a name becomes the given one, or disappears. -/
def set (t : Table α) (k : String) : Option α → Table α
  | some v => t.insert k v
  | none => t.erase k

@[simp] theorem get?_empty (k : String) : (empty : Table α).get? k = none := rfl

@[simp] theorem get?_insert (t : Table α) (k k' : String) (v : α) :
    (t.insert k v).get? k' = if k' = k then some v else t.get? k' :=
  Entries.find?_insert k k' v t.entries

@[simp] theorem get?_erase (t : Table α) (k k' : String) :
    (t.erase k).get? k' = if k' = k then none else t.get? k' :=
  Entries.find?_erase k k' t.entries

@[simp] theorem get?_set (t : Table α) (k k' : String) (v : Option α) :
    (t.set k v).get? k' = if k' = k then v else t.get? k' := by
  cases v <;> simp [set]

theorem ofList_toList (t : Table α) : ofList t.toList = t := by
  obtain ⟨entries, hsorted⟩ := t
  simp [ofList, toList, Entries.ofPairs_of_sorted hsorted]

theorem mem_toList_iff {t : Table α} {k : String} {v : α} :
    (k, v) ∈ t.toList ↔ t.get? k = some v :=
  ⟨Entries.find?_of_mem t.sorted, Entries.mem_of_find?⟩

theorem find?_eq_none_of_lt {k : String} {l : List (String × α)} (h : ∀ e ∈ l, k < e.1) :
    Entries.find? k l = none := by
  induction l with
  | nil => rfl
  | cons e r ih =>
    obtain ⟨k₀, v₀⟩ := e
    have hk : k ≠ k₀ := fun heq =>
      String.lt_irrefl k (by have := h (k₀, v₀) List.mem_cons_self; rwa [← heq] at this)
    simp only [Entries.find?, hk, if_false]
    exact ih fun e he => h e (List.mem_cons_of_mem _ he)

theorem entries_eq_of_find? : ∀ {l m : List (String × α)}, Entries.Sorted l → Entries.Sorted m →
    (∀ k, Entries.find? k l = Entries.find? k m) → l = m
  | [], [], _, _, _ => rfl
  | [], (k, v) :: _, _, _, h => by simpa [Entries.find?] using h k
  | (k, v) :: _, [], _, _, h => by simpa [Entries.find?] using h k
  | (k₁, v₁) :: l, (k₂, v₂) :: m, hl, hm, h => by
    obtain ⟨hl₁, hl₂⟩ := List.pairwise_cons.1 hl
    obtain ⟨hm₁, hm₂⟩ := List.pairwise_cons.1 hm
    have hk : k₁ = k₂ := by
      apply Decidable.byContradiction
      intro hne
      rcases String.le_total k₁ k₂ with hle | hle
      · have hlt : k₁ < k₂ := Decidable.byContradiction fun hn => hne (String.le_antisymm hle hn)
        have : Entries.find? k₁ ((k₂, v₂) :: m) = none :=
          find?_eq_none_of_lt fun e he => by
            rcases List.mem_cons.1 he with rfl | he
            · exact hlt
            · exact String.lt_trans hlt (hm₁ e he)
        have hk₁ := h k₁
        rw [this] at hk₁
        simp [Entries.find?] at hk₁
      · have hlt : k₂ < k₁ :=
          Decidable.byContradiction fun hn => hne (String.le_antisymm hn hle)
        have : Entries.find? k₂ ((k₁, v₁) :: l) = none :=
          find?_eq_none_of_lt fun e he => by
            rcases List.mem_cons.1 he with rfl | he
            · exact hlt
            · exact String.lt_trans hlt (hl₁ e he)
        have hk₂ := h k₂
        rw [this] at hk₂
        simp [Entries.find?] at hk₂
    subst hk
    have hv : v₁ = v₂ := by simpa [Entries.find?] using h k₁
    subst hv
    have hrest : ∀ k, Entries.find? k l = Entries.find? k m := fun k => by
      by_cases hk : k = k₁
      · subst hk
        rw [find?_eq_none_of_lt hl₁, find?_eq_none_of_lt hm₁]
      · simpa [Entries.find?, hk] using h k
    rw [entries_eq_of_find? hl₂ hm₂ hrest]

/-- A table is determined by its look-ups. -/
theorem ext {s t : Table α} (h : ∀ k, s.get? k = t.get? k) : s = t := by
  have := entries_eq_of_find? s.sorted t.sorted h
  cases s; cases t; cases this; rfl

end Table

end Faultline
