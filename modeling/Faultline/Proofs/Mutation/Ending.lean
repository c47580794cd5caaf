import Faultline.Proofs.Mutation.Enumeration

/-!
# Enumerations end

The accumulator of a step comes from the wire, and need not be one that the device gave.  Its place
may be beyond the payload, its cursors may name what is no leaf, and its reference may be another
payload altogether.  An enumeration ends from every accumulator that can be read
(`Device.ends_anywhere`), and a guarded device never breaks it off.
-/

namespace Faultline

theorem Walker.Walks.ne_nil {P C O : Type} {w : Walker P C O} {x : P} {a : Accumulator P C}
    {rs : List O} (h : w.Walks x a rs) : rs ≠ [] := by
  cases h <;> exact List.cons_ne_nil _ _

namespace Device

variable {M P C O : Type} {p : Codec P} {c : Codec C} {payload acc : Json}

/-- Whatever the device remembers, an enumeration has these results and is done, without error or
violation. -/
def Completes (d : Device) (payload acc : Json) (rs : List Json) : Prop :=
  ∀ (s : d.Memory) (n : Nat), rs.length ≤ n → d.drive payload n s acc = (rs, .done)

/-- What a device answers whose machine takes the steps of a walker. -/
theorem answer_of_stage {w : Machine M P C O} {v : Walker P C O} {x : P}
    {a : Accumulator P C} {s : M} (hstage : w.stage s x a = .ok (v.step x a))
    (hx : p.read? payload = some x) (ha : (Codec.accumulator p c).read? acc = some a)
    (kind : TransformerKind) (write : O → Json) :
    (ofMachine kind w p c write).answer s payload acc = .ok (.ok ⟨write (v.step x a).result,
      (v.step x a).hasNext, (v.step x a).next.map (Codec.accumulator p c).write⟩) := by
  refine (answer_ofMachine kind w p c write s payload acc).trans ?_
  simp only [Transformer.readPayload, hx, Transformer.readAccumulator, ha, hstage]
  rfl

/-- A machine that takes the steps of a walker comes to the end of a walk. -/
theorem completes_ofMachine {w : Machine M P C O} {v : Walker P C O} {x : P}
    (hstage : ∀ s a, w.stage s x a = .ok (v.step x a)) (hp : p.Lossless) (hc : c.Lossless)
    (hx : p.read? payload = some x) {a : Accumulator P C} {rs : List O} (hwalk : v.Walks x a rs)
    (ha : (Codec.accumulator p c).read? acc = some a) (kind : TransformerKind) (write : O → Json) :
    (ofMachine kind w p c write).Completes payload acc (rs.map write) := by
  -- only the first accumulator comes from elsewhere, those after it are written by the device
  induction hwalk generalizing acc with
  | @last a r next hstep =>
      intro s n hn
      obtain ⟨n, rfl⟩ : ∃ k, n = k + 1 := ⟨n - 1, by simp at hn; omega⟩
      have hanswer := answer_of_stage (hstage s a) hx ha kind write
      rw [hstep] at hanswer
      simp only [drive, hanswer]
      rfl
  | @more a a' r rs hstep _ ih =>
      intro s n hn
      obtain ⟨n, rfl⟩ : ∃ k, n = k + 1 := ⟨n - 1, by simp at hn; omega⟩
      have hanswer := answer_of_stage (hstage s a) hx ha kind write
      rw [hstep] at hanswer
      have hrest := fun s => ih (hp.accumulator hc a') s n (by simpa using hn)
      simp only [drive, hanswer, Except.map, hrest]
      rfl

/-! ### Every kind -/

/-- Two machines that take the steps of a walker whose walks end come to the same end. -/
theorem exists_completes {w w' : Machine M P C O} {v : Walker P C O} (hp : p.Lossless)
    (hc : c.Lossless) (hreads : p.Readable c payload acc)
    (h : ∀ x, p.read? payload = some x → (∀ a, ∃ rs, v.Walks x a rs) ∧
      (∀ s a, w.stage s x a = .ok (v.step x a)) ∧ ∀ s a, w'.stage s x a = .ok (v.step x a))
    (kind : TransformerKind) (write : O → Json) :
    ∃ rs, rs ≠ [] ∧ (ofMachine kind w p c write).Completes payload acc rs ∧
      (ofMachine kind w' p c write).Completes payload acc rs := by
  obtain ⟨x, hx⟩ := Option.isSome_iff_exists.1 hreads.1
  obtain ⟨a, ha⟩ := Option.isSome_iff_exists.1 hreads.2
  obtain ⟨hwalks, hstage, hstage'⟩ := h x hx
  obtain ⟨rs, hwalk⟩ := hwalks a
  exact ⟨rs.map write, fun hnil => hwalk.ne_nil (List.map_eq_nil_iff.1 hnil),
    completes_ofMachine hstage hp hc hx hwalk ha kind write,
    completes_ofMachine hstage' hp hc hx hwalk ha kind write⟩

theorem exists_completes_ofSpace {m : Space P O} (hp : p.Lossless)
    (hreads : p.Readable .word payload acc)
    (hcount : ∀ x, p.read? payload = some x → m.count x < 0x10000000000000000)
    {look : P → Nat → Option O} (hfinds : ∀ x, m.Finds look x) (beyond : Violation)
    (kind : TransformerKind) (write : O → Json) :
    ∃ rs, rs ≠ [] ∧ (ofSpace kind m p write).Completes payload acc rs ∧
      (ofLookups kind m look beyond p write).Completes payload acc rs := by
  refine exists_completes (v := m.walker) hp Codec.lossless_word hreads (fun x hx => ?_) kind write
  exact ⟨Space.exists_walks (Nat.le_of_lt (hcount x hx)), fun s a => m.stage_machine s x a,
    Space.stage_guarded (hcount x hx) (hfinds x) beyond⟩

theorem exists_completes_ofObjects {e : Mutation.ObjectEncoding P} (hp : p.Lossless)
    (hreads : p.Readable Mutation.Cursor.listCodec payload acc)
    (hcountable : ∀ x, p.read? payload = some x → e.Countable x) (beyond : Violation)
    (kind : TransformerKind) :
    ∃ rs, rs ≠ [] ∧ (ofObjects kind e p).Completes payload acc rs ∧
      (ofMachine kind (e.guarded beyond) p Mutation.Cursor.listCodec p.write).Completes
        payload acc rs := by
  refine exists_completes (v := e.walker) hp Mutation.Cursor.lossless_listCodec hreads
    (fun x hx => ?_) kind p.write
  have hx := hcountable x hx
  exact ⟨e.exists_walks hx.fits, hx.stage_machine,
    Mutation.ObjectEncoding.stage_guarded hx beyond⟩

/-- An enumeration by what a kind is made of ends. -/
theorem MadeOf.exists_completes {n : Nat} {beyond : Violation} {reads : Json → Prop}
    {t : Transformer} {d g : Device} (h : MadeOf n beyond payload reads t d g)
    (hn : n < 0x10000000000000000) (hreads : reads acc) :
    ∃ rs, rs ≠ [] ∧ d.Completes payload acc rs ∧ g.Completes payload acc rs := by
  cases h with
  | space lossless bounded finds =>
      exact exists_completes_ofSpace lossless hreads
        (fun x hx => Nat.lt_of_le_of_lt (bounded x hx) hn) finds beyond _ _
  | objects lossless bounded =>
      exact exists_completes_ofObjects lossless hreads (fun x hx => (bounded x hx).countable hn)
        beyond _

/-- From every accumulator that can be read, an enumeration ends after finitely many steps.  On the
way no number is too large, and nothing is looked up where there is nothing.  Payloads are no
longer than a word can count, as are all that a machine holds. -/
theorem ends_anywhere (beyond : Violation) {exceptions : List StoreException} {k : TransformerKind}
    (hexceptions : exceptions.length < 0x10000000000000000)
    (hextent : Transformer.extent payload < 0x10000000000000000) (hreads : k.Reads payload acc) :
    ∃ rs, rs ≠ [] ∧ (make exceptions k).Completes payload acc rs ∧
      (guarded beyond exceptions k).Completes payload acc rs := by
  have hmade := madeOf_make beyond k (Nat.le_pred_of_lt hexceptions) (Nat.le_pred_of_lt hextent)
    (by decide)
  exact hmade.exists_completes (by decide) hreads

/-- The largest place at an integer of `nestedObject`, in the walk through another object. -/
def foreignAccumulator : Accumulator String (List Mutation.Cursor) :=
  ⟨(Json.obj [("x", .str "yz"), ("y", .bool false)]).compact,
    [⟨"b->c", Mutation.Cursor.codec.write ⟨"", 0xFFFFFFFFFFFFFFFF⟩⟩]⟩

theorem ends_anywhere_foreignAccumulator :
    let payload := .str (Json.obj Mutation.ObjectEncoding.nestedObject).compact
    let acc := (Codec.accumulator .text Mutation.Cursor.listCodec).write foreignAccumulator
    Transformer.extent payload < 0x10000000000000000 ∧
    TransformerKind.objectText.Reads payload acc ∧
    ∃ rs, rs ≠ [] ∧ (make [] .objectText).Completes payload acc rs ∧
      (guarded .overflow [] .objectText).Completes payload acc rs := by
  intro payload acc
  have hextent : Transformer.extent payload < 0x10000000000000000 := by decide
  have hacc : (Codec.accumulator .text Mutation.Cursor.listCodec).read? acc =
      some foreignAccumulator :=
    Codec.lossless_text.accumulator Mutation.Cursor.lossless_listCodec foreignAccumulator
  have hreads : TransformerKind.objectText.Reads payload acc :=
    ⟨rfl, by rw [hacc]; rfl⟩
  exact ⟨hextent, hreads, ends_anywhere .overflow (by decide) hextent hreads⟩

end Device

end Faultline
