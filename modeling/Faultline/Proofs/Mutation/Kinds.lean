import Faultline.Proofs.Mutation.Guard

/-!
# What the kinds are made of

The transformer of a kind, its device and its guarded device are made of one thing, be it a space
of mutations or an encoding of objects (`Device.MadeOf`).  `Device.madeOf_make` goes through the
kinds once, and says how many mutations there can be.  What holds of spaces and of objects then
holds of every kind.
-/

namespace Faultline

/-- A payload and an accumulator that can be read. -/
def Codec.Readable {P C : Type} (p : Codec P) (c : Codec C) (payload acc : Json) : Prop :=
  (p.read? payload).isSome = true ∧ ((Codec.accumulator p c).read? acc).isSome = true

/-- The payloads of a kind, with the accumulators that it takes. -/
def TransformerKind.Reads (payload acc : Json) : TransformerKind → Prop
  | .text | .booleanText | .integerText | .unexpectedText =>
    Codec.Readable .text .word payload acc
  | .textBytes | .bitBytes | .booleanBytes | .unexpectedBytes =>
    Codec.Readable .bytes .word payload acc
  | .redisTimeout | .storeException => Codec.Readable .json .word payload acc
  | .objectText => Codec.Readable .text Mutation.Cursor.listCodec payload acc
  | .objectBytes => Codec.Readable .bytes Mutation.Cursor.listCodec payload acc

namespace Transformer

variable {payload : Json}

/-- The characters of a text, or the bits of an array of bytes. -/
def extent : Json → Nat
  | .str s => s.length
  | .arr items => items.length * 8
  | _ => 0

theorem length_of_text {s : String} (h : Codec.text.read? payload = some s) :
    s.length = extent payload := by
  cases payload <;> cases h
  rfl

theorem length_of_bytes {bs : List UInt8} (h : Codec.bytes.read? payload = some bs) :
    bs.length * 8 = extent payload := by
  cases payload with
  | arr items => rw [extent, Codec.length_mapM h]
  | null | bool | int | float | str | obj => cases h

end Transformer

namespace Device

/-- A space or an encoding of objects that a transformer, a device and a guarded one are made of,
and what the three read.  A payload, or a leaf of it, has at most `n` mutations. -/
inductive MadeOf (n : Nat) (beyond : Violation) (payload : Json) :
    (Json → Prop) → Transformer → Device → Device → Prop
  | space {P O : Type} {m : Space P O} {look : P → Nat → Option O} {p : Codec P} {empty : P}
      {write : O → Json} {kind : TransformerKind} (lossless : p.Lossless)
      (bounded : ∀ x, p.read? payload = some x → m.count x ≤ n) (finds : ∀ x, m.Finds look x) :
      MadeOf n beyond payload (p.Readable .word payload) (.ofSpace kind m empty p write)
        (ofSpace kind m p write) (ofLookups kind m look beyond p write)
  | objects {P : Type} {e : Mutation.ObjectEncoding P} {p : Codec P} {empty : P}
      {kind : TransformerKind} (lossless : p.Lossless)
      (bounded : ∀ x, p.read? payload = some x → e.BoundedBy n x) :
      MadeOf n beyond payload (p.Readable Mutation.Cursor.listCodec payload)
        (.ofObjects kind e empty p) (ofObjects kind e p)
        (ofMachine kind (e.guarded beyond) p Mutation.Cursor.listCodec p.write)

/-- What the kinds are made of. -/
theorem madeOf_make (beyond : Violation) {exceptions : List StoreException} (k : TransformerKind)
    {payload : Json} {n : Nat} (hexceptions : exceptions.length ≤ n)
    (hextent : Transformer.extent payload ≤ n) (hn : 6 ≤ n) :
    MadeOf n beyond payload (fun acc => k.Reads payload acc) (.make exceptions k)
      (make exceptions k) (guarded beyond exceptions k) := by
  have htext : ∀ s, Codec.text.read? payload = some s → s.length ≤ n :=
    fun s hs => Transformer.length_of_text hs ▸ hextent
  have hbits : ∀ bs, Codec.bytes.read? payload = some bs → bs.length * 8 ≤ n :=
    fun bs hbs => Transformer.length_of_bytes hbs ▸ hextent
  have hbytes : ∀ bs, Codec.bytes.read? payload = some bs → bs.length ≤ n :=
    fun bs hbs => Nat.le_trans (Nat.le_mul_of_pos_right _ (by decide)) (hbits bs hbs)
  have hone : ∀ b : Bool, (if b = true then 1 else 0) ≤ n := by
    intro b
    split <;> omega
  cases k with
  | text => exact .space Codec.lossless_text htext Space.finds_computed
  | textBytes => exact .space Codec.lossless_bytes hbytes Mutation.finds_changeAt?_nextByte
  | bitBytes => exact .space Codec.lossless_bytes hbits Mutation.finds_changeAt?_flipBit
  | booleanText => exact .space Codec.lossless_text (fun _ _ => hone _) Space.finds_computed
  | booleanBytes => exact .space Codec.lossless_bytes (fun _ _ => hone _) Space.finds_computed
  | integerText => exact .space Codec.lossless_text (fun _ _ => hone _) Space.finds_computed
  | unexpectedText =>
      have htwo : 2 ≤ n := by omega
      exact .space Codec.lossless_text (fun _ _ => htwo) Mutation.finds_unexpectedTexts
  | unexpectedBytes =>
      exact .space Codec.lossless_bytes (fun _ _ => hn) Mutation.finds_unexpectedValues
  | redisTimeout => exact .space Codec.lossless_json (fun _ _ => hone true) Space.finds_computed
  | storeException =>
      exact .space Codec.lossless_json (fun _ _ => hexceptions)
        (Mutation.finds_exceptions exceptions)
  | objectText =>
      exact .objects Codec.lossless_text
        fun s hs => Mutation.ObjectEncoding.boundedBy_objectText (htext s hs) (by omega)
  | objectBytes =>
      exact .objects Codec.lossless_bytes
        fun bs hbs => Mutation.ObjectEncoding.boundedBy_objectBytes (hbytes bs hbs) (by omega)

end Device

end Faultline
