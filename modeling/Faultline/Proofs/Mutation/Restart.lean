import Faultline.Device
import Faultline.Proofs.Frame

/-!
# Devices restart anywhere

What a device answers depends on the payload and the accumulator only (`restarts_anywhere`).  A
machine overwrites all that it remembers before it reads it: whatever the memory was, a step of a
space comes to the same stage, and so does a step of an object, whose leaves are walked by new
machines.  An enumeration can therefore be carried on by another device.
-/

namespace Faultline

namespace Machine

variable {M P C O : Type}

/-- What a step from a memory comes to. -/
def stage (w : Machine M P C O) (s : M) (p : P) (a : Accumulator P C) :
    Except Violation (Stage P C O) :=
  match w.transform p a s with
  | .error v _ => .error v
  | .ok _ s =>
    match w.result s with
    | .error v => .error v
    | .ok r => .ok ⟨r, w.hasNext s, w.next s⟩

/-- No memory of earlier steps has a part in a step. -/
def Forgets (w : Machine M P C O) : Prop :=
  ∀ s s' p a, w.stage s p a = w.stage s' p a

end Machine

namespace Space

variable {P O : Type}

/-- Whatever the machine of a space remembers, it takes the step of the space. -/
theorem exists_transform_machine (m : Space P O) (s : Memory P O) (p : P)
    (a : Accumulator P UInt64) : ∃ s', m.machine.transform p a s = .ok () s' ∧
      m.machine.result s' = .ok (m.stage p a).result ∧
      m.machine.hasNext s' = (m.stage p a).hasNext ∧ m.machine.next s' = (m.stage p a).next := by
  by_cases hn : m.count p = 0
  · refine ⟨⟨false, some (m.unmutated p), some a⟩, ?_, ?_⟩
    · simp only [machine, transform, hn]
      rfl
    · simp only [stage, hn, if_true]
      exact ⟨rfl, rfl, rfl⟩
  · let i := min a.place.toNat (m.count p - 1)
    refine ⟨⟨decide (i + 1 < m.count p), some (m.mutate p i), some a⟩, ?_, ?_⟩
    · simp only [machine, transform, if_neg hn]
      rfl
    · simp only [stage, if_neg hn]
      exact ⟨rfl, rfl, rfl⟩

theorem next_stage (m : Space P O) (p : P) (a : Accumulator P UInt64) :
    (m.stage p a).next = advance a := by
  simp only [stage]
  split <;> rfl

theorem eq_overflow_of_next {m : Space P O} {p : P} {a : Accumulator P UInt64} {v : Violation}
    (h : (m.stage p a).next = .error v) : v = .overflow := by
  rw [next_stage, advance] at h
  split at h
  · cases h
    rfl
  · cases h

theorem stage_machine (m : Space P O) (s : Memory P O) (p : P) (a : Accumulator P UInt64) :
    m.machine.stage s p a = .ok (m.stage p a) := by
  obtain ⟨s', htransform, hresult, hhasNext, hnext⟩ := m.exists_transform_machine s p a
  simp only [Machine.stage, htransform, hresult, hhasNext, hnext]

theorem forgets_machine (m : Space P O) : m.machine.Forgets := by
  intro s s' p a
  rw [stage_machine, stage_machine]

end Space

namespace Mutation.ObjectEncoding

variable {P : Type}

/-- A turn comes to the step of the leaf's space. -/
theorem takeTurn_eq (e : ObjectEncoding P) (t : Turn) (begun : List Cursor) (s : Memory P) :
    let stage := t.space.stage (leafInput t.leaf.value) t.accumulator
    let s' := { s with leafHasNext := stage.hasNext }
    e.takeTurn t begun s = match stage.hasNext, stage.next with
      | true, .ok a => .ok (e.withLeaf t stage.result, moveLast t a begun) s'
      | true, .error v => .error v s'
      | false, _ => .ok (e.withLeaf t stage.result, begun) s' := by
  obtain ⟨inner, htransform, hresult, hhasNext, hnext⟩ := t.space.exists_transform_machine
    t.space.machine.fresh (leafInput t.leaf.value) t.accumulator
  intro stage s'
  simp only [takeTurn, htransform, hresult, hhasNext, hnext]
  cases hmore : (t.space.stage (leafInput t.leaf.value) t.accumulator).hasNext with
  | false =>
      simp only [stage, s', hmore]
      rfl
  | true =>
      cases hgo : (t.space.stage (leafInput t.leaf.value) t.accumulator).next with
      | ok a =>
          simp only [stage, s', hmore]
          rfl
      | error v =>
          simp only [stage, s', hmore]
          rfl

/-- What is left of a step when no leaf goes on: the next leaf follows. -/
def stageBetween (e : ObjectEncoding P) (result : P) (a : Accumulator P (List Cursor)) :
    Stage P (List Cursor) P :=
  ⟨result, decide (a.place.length < e.fieldCount a.reference),
    .ok ⟨a.reference, a.place ++ e.following a.reference a.place.length⟩⟩

/-- The memory after a step in which a leaf had its turn. -/
theorem transform_of_turn (e : ObjectEncoding P) {t : Turn} {p : P}
    {a : Accumulator P (List Cursor)} (ht : e.turn? p a.place = some t) (s : Memory P) :
    e.transform p a s = match e.takeTurn t a.place { s with leafHasNext := false } with
      | .ok (result, begun) s' => .ok () ⟨s'.leafHasNext ||
          decide (begun.length < e.fieldCount a.reference), s'.leafHasNext, some result,
          some ⟨a.reference, begun⟩⟩
      | .error v s' => .error v s' := by
  simp only [transform, ht, bind, EStateM.bind, modify, modifyGet, MonadStateOf.modifyGet,
    EStateM.modifyGet]
  cases e.takeTurn t a.place { s with leafHasNext := false } <;> rfl

/-- A step of an object comes to the turn of a leaf, if it is the turn of one. -/
theorem stage_machine (e : ObjectEncoding P) (s : Memory P) (p : P)
    (a : Accumulator P (List Cursor)) :
    e.machine.stage s p a = match e.turn? p a.place with
      | none => .ok (e.stageBetween p a)
      | some t =>
        let stage := t.space.stage (leafInput t.leaf.value) t.accumulator
        match stage.hasNext, stage.next with
        | true, .ok b =>
          .ok ⟨e.withLeaf t stage.result, true, .ok ⟨a.reference, moveLast t b a.place⟩⟩
        | true, .error v => .error v
        | false, _ => .ok (e.stageBetween (e.withLeaf t stage.result) a) := by
  cases ht : e.turn? p a.place with
  | none =>
      simp only [Machine.stage, machine, transform, ht]
      rfl
  | some t =>
      simp only [Machine.stage, machine, e.transform_of_turn ht, takeTurn_eq]
      cases hmore : (t.space.stage (leafInput t.leaf.value) t.accumulator).hasNext with
      | false => rfl
      | true =>
          cases (t.space.stage (leafInput t.leaf.value) t.accumulator).next with
          | ok b => rfl
          | error v => rfl

theorem forgets_machine (e : ObjectEncoding P) : e.machine.Forgets := by
  intro s s' p a
  rw [stage_machine, stage_machine]

/-- The step of the leaf that the last cursor names, by the space that it walks. -/
theorem bind_stepLeaf (e : ObjectEncoding P) (p : P) (begun : List Cursor) :
    begun.getLast?.bind (e.stepLeaf p) = (e.turn? p begun).bind fun t =>
      let stage := t.space.stage (leafInput t.leaf.value) t.accumulator
      match stage.hasNext, stage.next with
      | true, .ok b => some ⟨e.withLeaf t stage.result, some ⟨t.field, Cursor.codec.write b⟩⟩
      | true, .error _ => none
      | false, _ => some ⟨e.withLeaf t stage.result, none⟩ := by
  cases hlast : begun.getLast? with
  | none => cases hdecode : e.decode? p <;> simp [turn?, hdecode, hlast]
  | some c =>
      simp only [stepLeaf, turn?, hlast, Option.bind_eq_bind, Option.bind_some, Option.bind_assoc,
        Option.pure_def]
      refine Option.bind_congr fun members _ => Option.bind_congr fun leaf _ =>
        Option.bind_congr fun space _ => Option.bind_congr fun b _ => ?_
      rcases space.stage (leafInput leaf.value) b with ⟨result, _ | _, _ | _⟩ <;> rfl

/-- The machine of objects takes their steps, as long as the mutations of a leaf can be counted. -/
theorem stage_machine_eq_step (e : ObjectEncoding P) (s : Memory P) (p : P)
    (a : Accumulator P (List Cursor)) :
    e.machine.stage s p a = .ok (e.step p a) ∨ e.machine.stage s p a = .error .overflow := by
  rw [stage_machine]
  have hleaf := e.bind_stepLeaf p a.place
  cases ht : e.turn? p a.place with
  | none =>
      rw [ht] at hleaf
      exact .inl (by simp [step, hleaf, stageBetween])
  | some t =>
      rw [ht, Option.bind_some] at hleaf
      simp only at hleaf ⊢
      cases hmore : (t.space.stage (leafInput t.leaf.value) t.accumulator).hasNext with
      | false =>
          simp only [hmore] at hleaf
          exact .inl (by simp [step, hleaf, stageBetween])
      | true =>
          cases hnext : (t.space.stage (leafInput t.leaf.value) t.accumulator).next with
          | ok b =>
              simp only [hmore, hnext] at hleaf
              exact .inl (by simp [step, hleaf, moveLast])
          | error v => exact .inr (by rw [Space.eq_overflow_of_next hnext])

end Mutation.ObjectEncoding

namespace Device

/-- What a step from a memory answers. -/
def answer (d : Device) (s : d.Memory) (payload acc : Json) :
    Except Violation (Except Error Mutated) :=
  match d.transform payload acc s with
  | .error v _ => .error v
  | .ok (.error e) _ => .ok (.error e)
  | .ok (.ok _) s => (d.result s).map fun r => .ok ⟨r, d.hasNext s, d.next s⟩

def Forgets (d : Device) : Prop :=
  ∀ s s' payload acc, d.answer s payload acc = d.answer s' payload acc

section

variable {M P C O : Type}

theorem answer_ofMachine (kind : TransformerKind) (w : Machine M P C O) (p : Codec P) (c : Codec C)
    (write : O → Json) (s : M) (payload acc : Json) :
    (ofMachine kind w p c write).answer s payload acc =
      match Transformer.readPayload p payload, Transformer.readAccumulator p c acc with
      | .ok payload, .ok a => (w.stage s payload a).map fun stage =>
        .ok ⟨write stage.result, stage.hasNext, stage.next.map (Codec.accumulator p c).write⟩
      | .error e, _ => .ok (.error e)
      | .ok _, .error e => .ok (.error e) := by
  simp only [answer, ofMachine]
  cases Transformer.readPayload p payload with
  | error e => rfl
  | ok payload =>
      cases Transformer.readAccumulator p c acc with
      | error e => rfl
      | ok a =>
          simp only [Machine.stage, bind, EStateM.bind]
          cases w.transform payload a s with
          | error v s' => rfl
          | ok _ s' =>
              simp only [pure, EStateM.pure]
              cases w.result s' <;> rfl

/-- A device has no memory but that of its machine. -/
theorem forgets_ofMachine {w : Machine M P C O} (h : w.Forgets) (kind : TransformerKind)
    (p : Codec P) (c : Codec C) (write : O → Json) : (ofMachine kind w p c write).Forgets := by
  intro s s' payload acc
  refine (answer_ofMachine kind w p c write s payload acc).trans
    (Eq.trans ?_ (answer_ofMachine kind w p c write s' payload acc).symm)
  simp only [h s s']

theorem forgets_ofSpace (kind : TransformerKind) (m : Space P O) (p : Codec P) (write : O → Json) :
    (ofSpace kind m p write).Forgets :=
  forgets_ofMachine m.forgets_machine kind p .word write

theorem forgets_ofObjects (kind : TransformerKind) (e : Mutation.ObjectEncoding P) (p : Codec P) :
    (ofObjects kind e p).Forgets :=
  forgets_ofMachine e.forgets_machine kind p Mutation.Cursor.listCodec p.write

end

theorem forgets_make (exceptions : List StoreException) (k : TransformerKind) :
    (make exceptions k).Forgets := by
  cases k with
  | objectText => exact forgets_ofObjects _ _ _
  | objectBytes => exact forgets_ofObjects _ _ _
  | _ => exact forgets_ofSpace _ _ _ _

/-! ### Enumerations -/

/-- How an enumeration stands when it is left. -/
inductive Halt where
  /-- It goes on from an accumulator. -/
  | more (acc : Json)
  | done
  | failed (e : Error)
  | broken (v : Violation)

/-- What a device remembers after steps over some payloads from some accumulators, be they taken,
refused or broken off. -/
def remember (d : Device) (history : List (Json × Json)) : d.Memory :=
  history.foldl (fun s h => after (d.transform h.1 h.2) s) d.fresh

/-- At most `n` steps of one device over a payload: the results, and how the enumeration stands. -/
def drive (d : Device) (payload : Json) : Nat → d.Memory → Json → List Json × Halt
  | 0, _, acc => ([], .more acc)
  | n + 1, s, acc =>
    match d.answer s payload acc with
    | .error v => ([], .broken v)
    | .ok (.error e) => ([], .failed e)
    | .ok (.ok m) =>
      match m.hasNext, m.next with
      | true, .ok acc' =>
        let (rs, halt) := d.drive payload n (after (d.transform payload acc) s) acc'
        (m.result :: rs, halt)
      | true, .error v => ([m.result], .broken v)
      | false, _ => ([m.result], .done)

/-- An enumeration that is left to a new device. -/
def handOver (d : Device) (payload : Json) (more : Nat) : List Json × Halt → List Json × Halt
  | (rs, .more acc) =>
    let (rest, halt) := d.drive payload more d.fresh acc
    (rs ++ rest, halt)
  | (rs, halt) => (rs, halt)

variable {d : Device}

theorem Forgets.drive_eq (h : d.Forgets) (payload : Json) (n : Nat) (s s' : d.Memory) (acc : Json) :
    d.drive payload n s acc = d.drive payload n s' acc := by
  induction n generalizing s s' acc with
  | zero => rfl
  | succ n ih =>
      rw [drive, drive, h s s' payload acc]
      split
      · rfl
      · rfl
      · split
        · rw [ih]
        · rfl
        · rfl

/-- A new device gives the results that the old one would have given. -/
theorem Forgets.drive_add (h : d.Forgets) (payload : Json) (n more : Nat) (s : d.Memory)
    (acc : Json) :
    d.drive payload (n + more) s acc = d.handOver payload more (d.drive payload n s acc) := by
  induction n generalizing s acc with
  | zero =>
      rw [Nat.zero_add, drive, handOver]
      exact h.drive_eq payload more s d.fresh acc
  | succ n ih =>
      -- Both sides take the same first step; only one that goes on leaves anything to hand over.
      rw [Nat.add_right_comm, drive, drive]
      cases d.answer s payload acc with
      | error v => rfl
      | ok r =>
          cases r with
          | error e => rfl
          | ok m =>
              dsimp only
              split
              · next acc' _ _ =>
                  rw [ih]
                  rcases d.drive payload n (after (d.transform payload acc) s) acc'
                    with ⟨rs, _ | _⟩ <;> rfl
              · rfl
              · rfl

/-- Whatever a device did before, a step answers the same as that of a new device, and an
enumeration that is broken off and carried on by a new device from the accumulator at which it
stands has the results that it would have had. -/
theorem restarts_anywhere (exceptions : List StoreException) (k : TransformerKind)
    (history : List (Json × Json)) (payload acc : Json) :
    let d := make exceptions k
    d.answer (d.remember history) payload acc = d.answer d.fresh payload acc ∧
    ∀ n more, d.drive payload (n + more) (d.remember history) acc =
      d.handOver payload more (d.drive payload n (d.remember history) acc) := by
  intro d
  have h : d.Forgets := forgets_make exceptions k
  exact ⟨h _ _ payload acc, fun n more => h.drive_add payload n more _ acc⟩

end Device

end Faultline
