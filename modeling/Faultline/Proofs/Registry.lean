import Faultline.Proofs.Mutation.Devices
import Faultline.Proofs.Mutation.Positions

/-!
# Transformers that fit

A registry tells payloads apart by one set of rules, and the transformer that it picks reads them
by another.  The two agree: a transformer that a fresh registry picks accepts the payload that it
was picked for, comes to the end of it without error, and gives only values of the payload's shape
(`Registry.default_fits`).
-/

namespace Faultline

/-! ### Classification and reading -/

namespace PayloadKind

/-- A number is a byte to the classification exactly if it is read as one. -/
theorem isByte_iff (j : Json) : isByte j = true ↔ (Codec.byte? j).isSome = true := by
  cases h : j.uint64? with
  | none => simp [isByte, Codec.byte?, h]
  | some n => by_cases hn : n ≤ 255 <;> simp [isByte, Codec.byte?, h, hn]

theorem isByte_ofNat (b : UInt8) : isByte (.ofNat b.toNat) = true := by
  rw [isByte_iff, Codec.byte?_ofNat]
  rfl

/-- An array of bytes is read. -/
theorem exists_mapM_byte? {items : List Json} (h : items.all isByte = true) :
    ∃ bs, items.mapM Codec.byte? = some bs := by
  induction items with
  | nil => exact ⟨[], rfl⟩
  | cons j items ih =>
      rw [List.all_cons, Bool.and_eq_true] at h
      obtain ⟨b, hb⟩ := Option.isSome_iff_exists.1 ((isByte_iff j).1 h.1)
      obtain ⟨bs, hbs⟩ := ih h.2
      exact ⟨b :: bs, by simp [hb, hbs]⟩

/-- Only texts and arrays of bytes have a transformer, which is one that reads them. -/
theorem reads_of_defaultTransformer {v : Json} {k : TransformerKind}
    (h : defaultTransformer (ofValue v) = some k) :
    (∃ s, v = .str s ∧ k ∈ [.text, .booleanText, .integerText, .objectText]) ∨
    ∃ bs, Codec.bytes.read? v = some bs ∧ k = .textBytes := by
  cases v with
  | str s =>
      refine .inl ⟨s, rfl, ?_⟩
      rw [ofValue, ofText] at h
      split_ifs at h <;> cases h <;> decide
  | arr items =>
      rw [ofValue] at h
      split_ifs at h with hbytes
      · rw [Bool.and_eq_true] at hbytes
        obtain ⟨bs, hbs⟩ := exists_mapM_byte? hbytes.2
        cases h
        exact .inr ⟨bs, hbs, rfl⟩
      · cases h
  | null | bool | int | float | obj => cases h

end PayloadKind

/-- The transformer that a fresh registry picks is the one of the payload's kind. -/
theorem Registry.forPayload_default_iff {v : Json} {t : Transformer} :
    default.forPayload v = .ok t ↔
      ∃ k, PayloadKind.defaultTransformer (PayloadKind.ofValue v) = some k ∧
        t = .make [] k := by
  simp only [forPayload, default]
  cases hkind : PayloadKind.defaultTransformer (PayloadKind.ofValue v) with
  | none => simp
  | some k =>
      have hself : k.isSelfContained = true := by
        cases hvalue : PayloadKind.ofValue v <;> rw [hvalue] at hkind <;> cases hkind <;> rfl
      have hcreate : (⟨PayloadKind.defaultTransformer, []⟩ : Registry).create k =
          .ok (.make [] k) := by simp [create, hself]
      simp [hcreate, eq_comm]

/-! ### Steps -/

namespace Transformer

variable {P C O : Type} {kind : TransformerKind} {w : Walker P C O} {size : P → Nat} {empty : P}
variable {p : Codec P} {c : Codec C} {write : O → Json} {v acc : Json} {m : Mutated}

/-- A payload that can be read can be started on. -/
theorem exists_start_ofWalker {x : P} (hx : p.read? v = some x) :
    ∃ acc, (ofWalker kind w size empty p c write).start v = .ok acc := by
  refine ⟨(Codec.accumulator p c).write (w.start x), ?_⟩
  simp only [ofWalker, readPayload, hx]
  rfl

/-- Values of the shape of a payload: texts, or arrays of as many bytes. -/
def SameShape (v r : Json) : Prop :=
  match v with
  | .str _ => ∃ s, r = .str s
  | .arr items =>
    ∃ bytes, r = .arr bytes ∧ bytes.length = items.length ∧ ∀ b ∈ bytes, PayloadKind.isByte b = true
  | _ => False

/-- Where payloads and results are texts, a text is given for a text. -/
theorem sameShape_of_texts {w : Walker String C String} {size : String → Nat} {empty s : String}
    (h : (ofWalker kind w size empty .text c .str).step (.str s) acc = .ok m) :
    SameShape (.str s) m.result := by
  obtain ⟨x, a, -, -, rfl⟩ := exists_of_step_ofWalker h
  exact ⟨_, rfl⟩

/-- Where each element is changed in its place, as many bytes are given. -/
theorem sameShape_of_positions {space : Space (List UInt8) (List UInt8)} {change : UInt8 → UInt8}
    (hspace : space.Positional id change)
    (h : (onBytes kind space).step v acc = .ok m) : SameShape v m.result := by
  obtain ⟨bs, a, hbs, -, rfl⟩ := exists_of_step_ofWalker h
  have hlength : (space.stage bs a).result.length = bs.length := by
    simp only [Space.stage]
    split
    · rw [hspace.unmutated]
    · exact hspace.length_mutate bs _
  cases v with
  | arr items =>
      refine ⟨(space.stage bs a).result.map fun b => .ofNat b.toNat, rfl, ?_, fun b hb => ?_⟩
      · rw [List.length_map, hlength, Codec.length_mapM hbs]
      · obtain ⟨b', -, rfl⟩ := List.mem_map.1 hb
        exact PayloadKind.isByte_ofNat b'
  | null | bool | int | float | str | obj => cases hbs

/-- The transformer that fits a payload starts on it, and each of its steps keeps the shape of the
payload. -/
theorem fits_of_defaultTransformer {k : TransformerKind}
    (hk : PayloadKind.defaultTransformer (PayloadKind.ofValue v) = some k) :
    (∃ acc, (make [] k).start v = .ok acc) ∧
      ∀ {acc m}, (make [] k).step v acc = .ok m → SameShape v m.result := by
  rcases PayloadKind.reads_of_defaultTransformer hk with ⟨s, rfl, htext⟩ | ⟨bs, hbs, rfl⟩
  · have hs : Codec.text.read? (.str s) = some s := rfl
    simp only [List.mem_cons, List.not_mem_nil, or_false] at htext
    rcases htext with rfl | rfl | rfl | rfl <;>
      exact ⟨exists_start_ofWalker hs, sameShape_of_texts⟩
  · exact ⟨exists_start_ofWalker hbs, sameShape_of_positions Mutation.positional_shiftedByte⟩

end Transformer

/-! ### From the start to the end -/

namespace Registry

open Transformer

/-- The transformer that a fresh registry picks for a payload accepts it and comes to the end of
it, and so do the devices of its kind, whatever they remember: no step fails or breaks off, and
each result has the shape of the payload.  Payloads are no longer than a word can count, as are
all that a machine holds. -/
theorem default_fits (beyond : Violation) {v : Json} {t : Transformer}
    (hextent : extent v < 0x10000000000000000) (h : default.forPayload v = .ok t) :
    ∃ acc rs, rs ≠ [] ∧ t.start v = .ok acc ∧ Instance.Drives v (.fresh t) acc rs ∧
      (∀ d ∈ [Device.make [] t.kind, Device.guarded beyond [] t.kind],
        d.start v = .ok acc ∧ d.Completes v acc rs) ∧
      ∀ r ∈ rs, SameShape v r := by
  obtain ⟨k, hk, rfl⟩ := forPayload_default_iff.1 h
  obtain ⟨⟨acc, hstart⟩, hshape⟩ := fits_of_defaultTransformer hk
  obtain ⟨vs, hvisits, -⟩ := exists_visits (by decide) (Nat.le_of_lt hextent) hstart
  have hnone : ([] : List StoreException).length < 0x10000000000000000 := by decide
  have hsound := Device.sound_make (k := k) beyond hnone hextent
  have hdevices := Device.start_make beyond [] k
  refine ⟨acc, _, ?_, hstart, hvisits.drives none, ?_, hvisits.forall_results hshape⟩
  · obtain ⟨r, rest, rfl⟩ := hvisits.exists_cons
    exact List.cons_ne_nil _ _
  · rw [kind_make]
    intro d hd
    simp only [List.mem_cons, List.not_mem_nil, or_false] at hd
    rcases hd with rfl | rfl
    · exact ⟨by rw [hdevices.1, hstart], hsound.follows.completes hvisits⟩
    · exact ⟨by rw [hdevices.2, hstart], hsound.guarded.completes hvisits⟩

/-- Bytes of which one is the largest. -/
theorem default_fits_bytes :
    let v := Codec.writeBytes [126, 255]
    extent v < 0x10000000000000000 ∧ default.forPayload v = .ok (.make [] .textBytes) ∧
      ∃ acc rs, rs ≠ [] ∧ (Transformer.make [] .textBytes).start v = .ok acc ∧
        Instance.Drives v (.fresh (.make [] .textBytes)) acc rs ∧
        (∀ d ∈ [Device.make [] .textBytes, Device.guarded .overflow [] .textBytes],
          d.start v = .ok acc ∧ d.Completes v acc rs) ∧
        ∀ r ∈ rs, SameShape v r := by
  intro v
  have hpick : default.forPayload v = .ok (.make [] .textBytes) :=
    forPayload_default_iff.2 ⟨.textBytes, rfl, rfl⟩
  exact ⟨by decide, hpick, default_fits .overflow (by decide) hpick⟩

end Registry

end Faultline
