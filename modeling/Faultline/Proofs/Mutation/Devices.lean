import Faultline.Proofs.Mutation.Ending

/-!
# Devices and their transformers

A device remembers, may be guarded, and can break off; the transformer of its kind does none of
this.  On a payload whose mutations a word can count, the two cannot be told apart: whatever a
device remembers, it answers with the step of the transformer, and a step that has a successor can
be continued (`Device.sound_make`).  What is known of the steps of a transformer holds of the
devices of its kind.
-/

namespace Faultline

namespace Transformer

variable {t : Transformer} {payload acc : Json} {vs : List (Json × Json)}

/-- What every step satisfies holds of all results. -/
theorem Visits.forall_results {P : Json → Prop}
    (hstep : ∀ {acc m}, t.step payload acc = .ok m → P m.result)
    (h : t.Visits payload acc vs) : ∀ r ∈ vs.map (·.2), P r := by
  induction h with
  | last h => simpa using hstep h
  | more h _ ih => simpa using ⟨hstep h, by simpa using ih⟩

variable {P C O : Type} {kind : TransformerKind} {w : Walker P C O} {size : P → Nat} {empty : P}
variable {p : Codec P} {c : Codec C} {write : O → Json} {m : Mutated}

/-- A step that is taken is one of the walker. -/
theorem exists_of_step_ofWalker
    (h : (ofWalker kind w size empty p c write).step payload acc = .ok m) :
    ∃ x a, p.read? payload = some x ∧ (Codec.accumulator p c).read? acc = some a ∧
      m = ⟨write (w.step x a).result, (w.step x a).hasNext,
        (w.step x a).next.map (Codec.accumulator p c).write⟩ := by
  simp only [ofWalker, readPayload, readAccumulator] at h
  cases hx : p.read? payload with
  | none => simp [hx, bind, Except.bind] at h
  | some x =>
      cases ha : (Codec.accumulator p c).read? acc with
      | none => simp [hx, ha, bind, Except.bind] at h
      | some a =>
          simp only [hx, ha] at h
          exact ⟨x, a, rfl, rfl, (Except.ok.inj h).symm⟩

end Transformer

namespace Device

variable {d : Device} {t : Transformer} {payload acc : Json}

/-- Whatever the device remembers, it answers with the step of the transformer. -/
def Follows (d : Device) (t : Transformer) (payload : Json) : Prop :=
  ∀ s acc, d.answer s payload acc = .ok (t.step payload acc)

theorem Follows.completes (h : d.Follows t payload) {vs : List (Json × Json)}
    (hvisits : t.Visits payload acc vs) : d.Completes payload acc (vs.map (·.2)) := by
  induction hvisits with
  | last hstep =>
      intro s n hn
      obtain ⟨n, rfl⟩ : ∃ k, n = k + 1 := ⟨n - 1, by simp at hn; omega⟩
      simp only [drive, h s, hstep]
      rfl
  | more hstep _ ih =>
      intro s n hn
      obtain ⟨n, rfl⟩ : ∃ k, n = k + 1 := ⟨n - 1, by simp at hn; omega⟩
      have hrest := fun s => ih s n (by simpa using hn)
      simp only [drive, h s, hstep, hrest]
      rfl

/-- A device and a guarded one follow a transformer, and a step that has a successor can be
continued. -/
structure Sound (t : Transformer) (d g : Device) (payload : Json) : Prop where
  follows : d.Follows t payload
  guarded : g.Follows t payload
  goesOn : ∀ {acc m}, t.step payload acc = .ok m → m.hasNext = true → ∃ next, m.next = .ok next

section

variable {M P C O : Type} {p : Codec P} {c : Codec C}

/-- A machine that takes the steps of a walker makes a device that follows. -/
theorem follows_ofMachine {w : Machine M P C O} {v : Walker P C O}
    (h : ∀ x, p.read? payload = some x → ∀ s a, w.stage s x a = .ok (v.step x a))
    (kind : TransformerKind) (size : P → Nat) (empty : P) (write : O → Json) :
    (ofMachine kind w p c write).Follows (.ofWalker kind v size empty p c write) payload := by
  intro s acc
  refine (answer_ofMachine kind w p c write s payload acc).trans ?_
  simp only [Transformer.ofWalker, Transformer.readPayload, Transformer.readAccumulator]
  cases hx : p.read? payload with
  | none => rfl
  | some x =>
      cases (Codec.accumulator p c).read? acc with
      | none => rfl
      | some a =>
          have hstage : w.stage s x a = .ok (v.step x a) := h x hx s a
          simp only [hstage]
          rfl

theorem sound_ofMachine {w w' : Machine M P C O} {v : Walker P C O}
    (h : ∀ x, p.read? payload = some x → (∀ s a, w.stage s x a = .ok (v.step x a)) ∧
      (∀ s a, w'.stage s x a = .ok (v.step x a)) ∧
      ∀ a, (v.step x a).hasNext = true → ∃ a', (v.step x a).next = .ok a')
    (kind : TransformerKind) (size : P → Nat) (empty : P) (write : O → Json) :
    Sound (.ofWalker kind v size empty p c write) (ofMachine kind w p c write)
      (ofMachine kind w' p c write) payload where
  follows := follows_ofMachine (fun x hx => (h x hx).1) kind size empty write
  guarded := follows_ofMachine (fun x hx => (h x hx).2.1) kind size empty write
  goesOn hstep hmore := by
    obtain ⟨x, a, hx, -, rfl⟩ := Transformer.exists_of_step_ofWalker hstep
    obtain ⟨a', ha'⟩ := (h x hx).2.2 a hmore
    exact ⟨(Codec.accumulator p c).write a', by simp only [ha']; rfl⟩

theorem sound_ofSpace {m : Space P O} {look : P → Nat → Option O}
    (hcount : ∀ x, p.read? payload = some x → m.count x < 0x10000000000000000)
    (hfinds : ∀ x, m.Finds look x) (beyond : Violation) (kind : TransformerKind) (empty : P)
    (write : O → Json) :
    Sound (.ofSpace kind m empty p write) (ofSpace kind m p write)
      (ofLookups kind m look beyond p write) payload := by
  refine sound_ofMachine (v := m.walker) (fun x hx => ?_) kind m.count empty write
  refine ⟨fun s a => m.stage_machine s x a, Space.stage_guarded (hcount x hx) (hfinds x) beyond,
    fun a hmore => ⟨⟨a.reference, a.place + 1⟩, (m.next_stage x a).trans ?_⟩⟩
  exact m.advance_ok_of_hasNext x a hmore (Nat.le_of_lt (hcount x hx))

theorem sound_ofObjects {e : Mutation.ObjectEncoding P}
    (hcountable : ∀ x, p.read? payload = some x → e.Countable x) (beyond : Violation)
    (kind : TransformerKind) (empty : P) :
    Sound (.ofObjects kind e empty p) (ofObjects kind e p)
      (ofMachine kind (e.guarded beyond) p Mutation.Cursor.listCodec p.write) payload := by
  refine sound_ofMachine (v := e.walker) (fun x hx => ?_) kind e.fieldCount empty p.write
  refine ⟨(hcountable x hx).stage_machine,
    Mutation.ObjectEncoding.stage_guarded (hcountable x hx) beyond, fun a _ => ?_⟩
  simp only [Mutation.ObjectEncoding.walker, Mutation.ObjectEncoding.step]
  split <;> exact ⟨_, rfl⟩

end

/-- The devices that a kind is made of follow its transformer. -/
theorem MadeOf.sound {n : Nat} {beyond : Violation} {reads : Json → Prop} {t : Transformer}
    {d g : Device} (h : MadeOf n beyond payload reads t d g) (hn : n < 0x10000000000000000) :
    Sound t d g payload := by
  cases h with
  | space _ bounded finds =>
      exact sound_ofSpace (fun x hx => Nat.lt_of_le_of_lt (bounded x hx) hn) finds beyond _ _ _
  | objects _ bounded => exact sound_ofObjects (fun x hx => (bounded x hx).countable hn) beyond _ _

/-- The devices of a kind follow its transformer, on payloads no longer than a word can count, as
are all that a machine holds. -/
theorem sound_make (beyond : Violation) {exceptions : List StoreException} {k : TransformerKind}
    (hexceptions : exceptions.length < 0x10000000000000000)
    (hextent : Transformer.extent payload < 0x10000000000000000) :
    Sound (.make exceptions k) (make exceptions k) (guarded beyond exceptions k) payload := by
  have hmade := madeOf_make beyond k (Nat.le_pred_of_lt hexceptions) (Nat.le_pred_of_lt hextent)
    (by decide)
  exact hmade.sound (by decide)

/-- The devices of a kind start where its transformer does. -/
theorem start_make (beyond : Violation) (exceptions : List StoreException) (k : TransformerKind) :
    (make exceptions k).start = (Transformer.make exceptions k).start ∧
      (guarded beyond exceptions k).start = (Transformer.make exceptions k).start := by
  cases k <;> exact ⟨rfl, rfl⟩

end Device

end Faultline
