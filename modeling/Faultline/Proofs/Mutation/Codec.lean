import Faultline.Mutation.Fields

/-!
# Reading back what was written

A codec is lossless when it reads back every value that it writes.  Those of payloads and of
places are, and so are accumulators made of them.
-/

namespace Faultline

namespace Codec

/-- Every value that is written is read back. -/
def Lossless {α : Type} (c : Codec α) : Prop :=
  ∀ a, c.read? (c.write a) = some a

theorem lossless_text : text.Lossless := fun _ => rfl

theorem lossless_word : word.Lossless := Json.uint64?_ofUInt64

theorem lossless_json : json.Lossless := fun _ => rfl

theorem byte?_ofNat (b : UInt8) : byte? (.ofNat b.toNat) = some b := by
  have hle : b.toUInt64 ≤ 255 := by
    rw [UInt64.le_iff_toNat_le, UInt8.toNat_toUInt64]
    exact Nat.le_of_lt_succ b.toNat_lt
  simp [byte?, Json.ofNat, hle]

/-- A list is read back where its items are. -/
theorem mapM_map {α β : Type} {read : β → Option α} {write : α → β}
    (h : ∀ a, read (write a) = some a) (as : List α) : (as.map write).mapM read = some as := by
  induction as with
  | nil => rfl
  | cons a as ih => simp [h, ih]

/-- A list that is read has as many items as it was written with. -/
theorem length_mapM {α β : Type} {read : β → Option α} {items : List β} {as : List α}
    (h : items.mapM read = some as) : as.length = items.length := by
  induction items generalizing as with
  | nil =>
      obtain rfl : [] = as := by simpa using h
      rfl
  | cons item items ih =>
      simp only [List.mapM_cons, Option.bind_eq_bind, Option.bind_eq_some_iff,
        Option.pure_def] at h
      obtain ⟨a, -, as', hrest, has⟩ := h
      obtain rfl := Option.some.inj has
      rw [List.length_cons, List.length_cons, ih hrest]

theorem lossless_bytes : bytes.Lossless :=
  mapM_map byte?_ofNat

variable {P C : Type}

theorem write_accumulator (p : Codec P) (c : Codec C) (a : Accumulator P C) :
    (accumulator p c).write a =
      .obj [("context", c.write a.place), ("referenceValue", p.write a.reference)] :=
  (Json.object_pair (by decide) _ _).2

theorem Lossless.accumulator {p : Codec P} {c : Codec C} (hp : p.Lossless) (hc : c.Lossless) :
    (accumulator p c).Lossless := fun a => by
  rw [write_accumulator]
  simp [Codec.accumulator, readAccumulator?, Record.ofJson?, Record.required, Record.get?,
    Entries.find?, hp a.reference, hc a.place]

end Codec

namespace Mutation.Cursor

theorem lossless_codec : codec.Lossless :=
  Codec.lossless_text.accumulator Codec.lossless_word

theorem toJson_eq (c : Cursor) :
    c.toJson = .obj [("accumulator", c.accumulator), ("field", .str c.field)] :=
  (Json.object_pair (by decide) _ _).2

theorem ofJson?_toJson (c : Cursor) : ofJson? c.toJson = some c := by
  rw [toJson_eq]
  simp [ofJson?, Record.ofJson?, Record.required, Record.get?, Entries.find?, Json.str?]

theorem lossless_listCodec : listCodec.Lossless :=
  Codec.mapM_map ofJson?_toJson

end Mutation.Cursor

end Faultline
