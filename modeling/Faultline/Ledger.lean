/-!
# Ledgers

Finite maps that list their entries in the order in which the keys were first entered: a later
value for a key takes the place of the earlier one.  `get?_put` gives the look-ups and `keys_put`
the order.
-/

namespace Faultline

/-- A finite map in order of first entry. -/
structure Ledger (κ α : Type) where
  entries : List (κ × α)

namespace Ledger

variable {κ α : Type} [DecidableEq κ]

instance : Inhabited (Ledger κ α) := ⟨⟨[]⟩⟩

def empty : Ledger κ α := ⟨[]⟩

def isEmpty (l : Ledger κ α) : Bool :=
  l.entries.isEmpty

def keys (l : Ledger κ α) : List κ :=
  l.entries.map (·.1)

def find? (k : κ) : List (κ × α) → Option α
  | [] => none
  | (k', v) :: r => if k = k' then some v else find? k r

def putEntry (k : κ) (v : α) : List (κ × α) → List (κ × α)
  | [] => [(k, v)]
  | (k', v') :: r => if k = k' then (k', v) :: r else (k', v') :: putEntry k v r

def get? (l : Ledger κ α) (k : κ) : Option α :=
  find? k l.entries

def contains (l : Ledger κ α) (k : κ) : Bool :=
  (l.get? k).isSome

/-- The value of a known key is replaced where it stands; a new key goes to the end. -/
def put (l : Ledger κ α) (k : κ) (v : α) : Ledger κ α :=
  ⟨putEntry k v l.entries⟩

def putAll (l : Ledger κ α) (es : List (κ × α)) : Ledger κ α :=
  es.foldl (fun l e => l.put e.1 e.2) l

/-- The same keys with the same values, in any order; values are compared by `same`. -/
def agrees (same : α → α → Bool) (l m : Ledger κ α) : Bool :=
  l.entries.length == m.entries.length &&
    l.entries.all fun e =>
      match m.get? e.1 with
      | some v => same e.2 v
      | none => false

@[simp] theorem get?_empty (k : κ) : (empty : Ledger κ α).get? k = none := rfl

@[simp] theorem get?_put (l : Ledger κ α) (k k' : κ) (v : α) :
    (l.put k v).get? k' = if k' = k then some v else l.get? k' := by
  obtain ⟨l⟩ := l
  simp only [get?, put]
  induction l with
  | nil => simp [putEntry, find?]
  | cons e r ih =>
    obtain ⟨k₀, v₀⟩ := e
    by_cases h : k = k₀
    · subst h
      by_cases hk : k' = k <;> simp [putEntry, find?, hk]
    · by_cases hk : k' = k
      · subst hk; simp [putEntry, h, find?, ih]
      · simp [putEntry, h, find?, hk, ih]

theorem keys_put (l : Ledger κ α) (k : κ) (v : α) :
    (l.put k v).keys = if k ∈ l.keys then l.keys else l.keys ++ [k] := by
  obtain ⟨l⟩ := l
  simp only [keys, put]
  induction l with
  | nil => simp [putEntry]
  | cons e r ih =>
    obtain ⟨k₀, v₀⟩ := e
    by_cases h : k = k₀
    · subst h; simp [putEntry]
    · by_cases hm : k ∈ r.map (·.1) <;> simp [putEntry, h, ih, hm]

end Ledger

end Faultline
