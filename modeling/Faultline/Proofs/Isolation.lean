import Faultline.Proofs.Client

/-!
# Requests do not see each other

The per-request state under any sequence of operations.  A part of the state is `Secluded` for a
selection of operations if the others leave it alone and these see nothing else.  The clock of a
pair is secluded for the operations on it and the clearings that reach it, and so is its index; so
the others can be left out of a sequence without a difference to the pair (`pairs_apart`).
-/

namespace Faultline

namespace State

variable {α β : Type}

/-- An operation on the per-request state.  On an entry it is a function of what is stored, with
something to give back. -/
inductive Op (α : Type) where
  | onClock (service request : String) (f : Clock → α × Clock)
  | onIndex (service request : String) (f : Index → α × Index)
  | onSlot (service request : String) (f : Option Index → α × Option Index)
  | clearService (service : String)
  | clearAll

/-- What the function of an operation was shown, and what it gave back. -/
inductive Sight (α : Type) where
  | clock (shown : Clock) (given : α)
  | index (shown : Index) (given : α)
  | slot (shown : Option Index) (given : α)
  | nothing

namespace Op

/-- Whether an operation is on the clock of a pair, or clears it. -/
def concernsClock (service request : String) : Op α → Bool
  | onClock service' request' _ => service' == service && request' == request
  | onIndex _ _ _ | onSlot _ _ _ => false
  | clearService service' => service' == service
  | clearAll => true

/-- Whether an operation is on the index of a pair, or clears it. -/
def concernsIndex (service request : String) : Op α → Bool
  | onClock _ _ _ => false
  | onIndex service' request' _ | onSlot service' request' _ =>
    service' == service && request' == request
  | clearService service' => service' == service
  | clearAll => true

end Op

/-- A function of an entry that also tells what it was shown. -/
def noting (f : β → α × β) (shown : β) : (β × α) × β :=
  ((shown, (f shown).1), (f shown).2)

def perform (s : State) : Op α → Sight α × State
  | .onClock service request f =>
    let r := s.updateClock service request (noting f)
    (.clock r.1.1 r.1.2, r.2)
  | .onIndex service request f =>
    let r := s.updateIndex service request (noting f)
    (.index r.1.1 r.1.2, r.2)
  | .onSlot service request f =>
    let r := s.updateSlot service request (noting f)
    (.slot r.1.1 r.1.2, r.2)
  | .clearService service => (.nothing, s.clearService service)
  | .clearAll => (.nothing, s.clearAll)

/-- The state after a sequence of operations. -/
def performAll (s : State) (ops : List (Op α)) : State :=
  ops.foldl (fun s op => (s.perform op).2) s

/-- The operations of a sequence, each with what its function was shown and gave back. -/
def sights (s : State) : List (Op α) → List (Op α × Sight α)
  | [] => []
  | op :: ops => (op, (s.perform op).1) :: sights (s.perform op).2 ops

/-! ### Parts that only some operations reach -/

/-- A part of the state that is no other operation's business than that of the selected ones. -/
structure Secluded (selected : Op α → Bool) (part : State → β) : Prop where
  /-- The other operations leave it alone. -/
  kept : ∀ (s : State) {op : Op α}, selected op = false → part (s.perform op).2 = part s
  /-- The selected ones see no other part. -/
  shown : ∀ {s s' : State} {op : Op α}, selected op = true → part s = part s' →
    (s.perform op).1 = (s'.perform op).1
  changed : ∀ {s s' : State} {op : Op α}, selected op = true → part s = part s' →
    part (s.perform op).2 = part (s'.perform op).2

namespace Secluded

variable {selected : Op α → Bool} {part : State → β}

/-- Leaving out the other operations makes no difference. -/
theorem filter (h : Secluded selected part) (ops : List (Op α)) {s s' : State}
    (hs : part s = part s') :
    part (s.performAll ops) = part (s'.performAll (ops.filter selected)) ∧
      (s.sights ops).filter (fun e => selected e.1) = s'.sights (ops.filter selected) := by
  induction ops generalizing s s' with
  | nil => exact ⟨hs, rfl⟩
  | cons op ops ih =>
      cases hop : selected op with
      | false =>
          have hrest := ih ((h.kept s hop).trans hs)
          simpa [performAll, sights, hop] using hrest
      | true =>
          have hrest := ih (h.changed hop hs)
          simpa [performAll, sights, hop, h.shown hop hs] using hrest

end Secluded

/-! ### The clock and the index of a pair -/

section Pair

/-- Two pairs that are told apart. -/
theorem ne_pair {service service' request request' : String}
    (h : (service' == service && request' == request) = false) :
    ¬ (service = service' ∧ request = request') := by
  rintro ⟨rfl, rfl⟩
  simp at h

theorem eq_pair {service service' request request' : String}
    (h : (service' == service && request' == request) = true) :
    service' = service ∧ request' = request := by
  simpa using h

variable (service request : String)

theorem secluded_clock :
    Secluded (Op.concernsClock (α := α) service request) fun s => s.clock? service request where
  kept s op hop := by
    cases op with
    | onClock service' request' f =>
        exact (clock?_updateClock s service' request' service request (noting f)).trans
          (if_neg (ne_pair hop))
    | onIndex | onSlot => rfl
    | clearService service' =>
        have hservice : service ≠ service' := (ne_of_beq_false hop).symm
        exact (clock?_clearService s service' service request).trans (if_neg hservice)
    | clearAll => cases hop
  shown {s s' op} hop hs := by
    cases op with
    | onClock service' request' f =>
        obtain ⟨rfl, rfl⟩ := eq_pair hop
        simp only [perform, updateClock, noting, hs]
    | onIndex | onSlot => cases hop
    | clearService | clearAll => rfl
  changed {s s' op} hop hs := by
    cases op with
    | onClock service' request' f =>
        obtain ⟨rfl, rfl⟩ := eq_pair hop
        simp only [perform, clock?_updateClock, hs]
    | onIndex | onSlot => cases hop
    | clearService service' => simp only [perform, clock?_clearService, hs]
    | clearAll => rfl

theorem secluded_index :
    Secluded (Op.concernsIndex (α := α) service request) fun s => s.index? service request where
  kept s op hop := by
    cases op with
    | onClock => rfl
    | onIndex service' request' f =>
        exact (index?_updateIndex s service' request' service request (noting f)).trans
          (if_neg (ne_pair hop))
    | onSlot service' request' f =>
        exact (index?_updateSlot s service' request' service request (noting f)).trans
          (if_neg (ne_pair hop))
    | clearService service' =>
        have hservice : service ≠ service' := (ne_of_beq_false hop).symm
        exact (index?_clearService s service' service request).trans (if_neg hservice)
    | clearAll => cases hop
  shown {s s' op} hop hs := by
    cases op with
    | onClock => cases hop
    | onIndex service' request' f =>
        obtain ⟨rfl, rfl⟩ := eq_pair hop
        simp only [perform, updateIndex, noting, hs]
    | onSlot service' request' f =>
        obtain ⟨rfl, rfl⟩ := eq_pair hop
        simp only [perform, updateSlot, noting, hs]
    | clearService | clearAll => rfl
  changed {s s' op} hop hs := by
    cases op with
    | onClock => cases hop
    | onIndex service' request' f =>
        obtain ⟨rfl, rfl⟩ := eq_pair hop
        simp only [perform, index?_updateIndex, hs]
    | onSlot service' request' f =>
        obtain ⟨rfl, rfl⟩ := eq_pair hop
        simp only [perform, index?_updateSlot, hs]
    | clearService service' => simp only [perform, index?_clearService, hs]
    | clearAll => rfl

end Pair

/-- What is stored for a pair of a service and a request, and what the operations on the pair are
shown and give back, is the same when all operations on other pairs, and on the other half of the
state, are left out. -/
theorem pairs_apart (ops : List (Op α)) (service request : String) :
    (empty.performAll ops).clock? service request =
      (empty.performAll (ops.filter (·.concernsClock service request))).clock? service request ∧
    (empty.performAll ops).index? service request =
      (empty.performAll (ops.filter (·.concernsIndex service request))).index? service request ∧
    (empty.sights ops).filter (·.1.concernsClock service request) =
      empty.sights (ops.filter (·.concernsClock service request)) ∧
    (empty.sights ops).filter (·.1.concernsIndex service request) =
      empty.sights (ops.filter (·.concernsIndex service request)) := by
  obtain ⟨hclock, hclocks⟩ := (secluded_clock service request).filter ops (s := empty) rfl
  obtain ⟨hindex, hindexes⟩ := (secluded_index service request).filter ops (s := empty) rfl
  exact ⟨hclock, hindex, hclocks, hindexes⟩

end State

end Faultline
