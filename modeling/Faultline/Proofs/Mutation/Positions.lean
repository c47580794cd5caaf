import Faultline.Proofs.Mutation.Ending

/-!
# One element after the other

Texts are changed by one character, arrays by one byte or by one bit.  Each of these spaces has a
mutation for every element of a payload, and no change leaves an element as it is, so that the
results of an enumeration are different from each other and from the payload
(`Device.mutations_one_by_one`).
-/

namespace Faultline

/-- The results of a payload whose elements are changed one at a time. -/
structure OneByOne {P E : Type} (elements : P → List E) (change : E → E) (x : P) (rs : List P) :
    Prop where
  /-- A payload without elements is its own only result. -/
  once : elements x = [] → rs = [x]
  different : rs.Nodup
  length : ∀ r ∈ rs, (elements r).length = (elements x).length
  changed : ∀ (i : Nat) r a, rs[i]? = some r → (elements x)[i]? = some a →
    (elements r)[i]? = some (change a)
  /-- A result differs from the payload at its own position, and nowhere else. -/
  onlyAt : elements x ≠ [] → ∀ (i : Nat) r, rs[i]? = some r →
    ∀ j : Nat, (elements r)[j]? ≠ (elements x)[j]? ↔ j = i

namespace Space

variable {P E : Type} {m : Space P P} {elements : P → List E} {change : E → E}

open Mutation

/-- A space that changes the elements of a payload by their position. -/
structure Positional (m : Space P P) (elements : P → List E) (change : E → E) : Prop where
  count : ∀ x, m.count x = (elements x).length
  mutate : ∀ x i, elements (m.mutate x i) = mapAt change i (elements x)
  unmutated : ∀ x, m.unmutated x = x
  moves : ∀ a, change a ≠ a

namespace Positional

theorem getElem?_mutate (h : m.Positional elements change) (x : P) (i j : Nat) :
    (elements (m.mutate x i))[j]? =
      if j = i then (elements x)[j]?.map change else (elements x)[j]? := by
  rw [h.mutate, getElem?_mapAt]

theorem length_mutate (h : m.Positional elements change) (x : P) (i : Nat) :
    (elements (m.mutate x i)).length = (elements x).length := by
  rw [h.mutate, length_mapAt]

theorem onlyAt_mutate (h : m.Positional elements change) {x : P} {i : Nat}
    (hi : i < (elements x).length) (j : Nat) :
    (elements (m.mutate x i))[j]? ≠ (elements x)[j]? ↔ j = i := by
  rw [h.getElem?_mutate]
  by_cases hj : j = i
  · subst hj
    simpa [hi] using h.moves _
  · simp [hj]

/-- Mutations at two positions differ at both. -/
theorem mutate_injOn (h : m.Positional elements change) {x : P} {i j : Nat}
    (hi : i < (elements x).length) (hj : j < (elements x).length)
    (hsame : m.mutate x i = m.mutate x j) : i = j := by
  have hdiffers := (h.onlyAt_mutate hi i).2 rfl
  rw [hsame] at hdiffers
  exact (h.onlyAt_mutate hj i).1 hdiffers

theorem results_eq (h : m.Positional elements change) {x : P} (hx : elements x ≠ []) :
    m.results x = (List.range (elements x).length).map (m.mutate x) := by
  have hcount : m.count x ≠ 0 := by
    rw [h.count]
    exact fun hzero => hx (List.length_eq_zero_iff.1 hzero)
  rw [results, if_neg hcount, h.count]

theorem results_eq_self (h : m.Positional elements change) {x : P} (hx : elements x = []) :
    m.results x = [x] := by
  have hcount : m.count x = 0 := by rw [h.count, hx, List.length_nil]
  rw [results_of_count_eq_zero hcount, h.unmutated]

theorem length_results (h : m.Positional elements change) (x : P) :
    (m.results x).length = max 1 (elements x).length := by
  by_cases hx : elements x = []
  · rw [h.results_eq_self hx, hx]
    rfl
  · have hlength := List.length_pos_iff.2 hx
    rw [h.results_eq hx, List.length_map, List.length_range]
    omega

/-- The result at a position is the mutation there. -/
theorem eq_mutate (h : m.Positional elements change) {x r : P} {i : Nat} (hx : elements x ≠ [])
    (hr : (m.results x)[i]? = some r) : i < (elements x).length ∧ r = m.mutate x i := by
  rw [h.results_eq hx] at hr
  obtain ⟨hi, hr⟩ := List.getElem?_eq_some_iff.1 hr
  rw [List.getElem_map, List.getElem_range] at hr
  exact ⟨by simpa using hi, hr.symm⟩

theorem nodup_results (h : m.Positional elements change) (x : P) : (m.results x).Nodup := by
  by_cases hx : elements x = []
  · rw [h.results_eq_self hx]
    exact List.nodup_singleton x
  · rw [h.results_eq hx]
    refine List.Nodup.map_on (fun i hi j hj hsame => ?_) List.nodup_range
    exact h.mutate_injOn (List.mem_range.1 hi) (List.mem_range.1 hj) hsame

theorem oneByOne (h : m.Positional elements change) (x : P) :
    OneByOne elements change x (m.results x) where
  once := h.results_eq_self
  different := h.nodup_results x
  length r hr := by
    by_cases hx : elements x = []
    · rw [h.results_eq_self hx, List.mem_singleton] at hr
      rw [hr]
    · obtain ⟨i, hi⟩ := List.mem_iff_getElem?.1 hr
      rw [(h.eq_mutate hx hi).2, h.length_mutate]
  changed i r a hr ha := by
    have hx : elements x ≠ [] := by
      intro hx
      simp [hx] at ha
    rw [(h.eq_mutate hx hr).2, h.getElem?_mutate, if_pos rfl, ha, Option.map_some]
  onlyAt hx i r hr j := by
    obtain ⟨hi, rfl⟩ := h.eq_mutate hx hr
    exact h.onlyAt_mutate hi j

end Positional

end Space

/-! ### Characters, bytes and bits -/

namespace Mutation

/-- The number of a shifted character is that of a character. -/
theorem toNat_shiftChar (c : Char) : (shiftChar c).toNat = (c.toNat + 1) % 127 + 33 := by
  have hvalid : ((c.toNat + 1) % 127 + 33).isValidChar := by
    have := Nat.mod_lt (c.toNat + 1) (show 127 > 0 by decide)
    exact .inl (by omega)
  rw [shiftChar, Char.toNat_ofNat, if_pos hvalid]

theorem shiftChar_ne (c : Char) : shiftChar c ≠ c := by
  intro hsame
  have hnumber := toNat_shiftChar c
  rw [hsame] at hnumber
  omega

/-- Replacements are from `!` to the last character before the blank U+00A0. -/
theorem shiftChar_range (c : Char) : '!' ≤ shiftChar c ∧ shiftChar c ≤ '\u009F' := by
  have hnumber := toNat_shiftChar c
  have hlower : '!'.toNat ≤ (shiftChar c).toNat := by
    rw [hnumber]
    exact Nat.le_add_left _ _
  have hupper : (shiftChar c).toNat ≤ '\u009F'.toNat := by
    have hlimit : '\u009F'.toNat = 159 := rfl
    omega
  exact ⟨Char.le_def.2 (UInt32.le_iff_toNat_le.2 hlower),
    Char.le_def.2 (UInt32.le_iff_toNat_le.2 hupper)⟩

theorem nextByte_ne (b : UInt8) : nextByte b ≠ b := by
  unfold nextByte
  split
  · next h =>
    rw [h]
    decide
  · intro hsame
    have hnumber := congrArg UInt8.toNat hsame
    have hone : (1 : UInt8).toNat = 1 := rfl
    rw [UInt8.toNat_add, hone] at hnumber
    omega

/-- The bits of a byte, the most significant one first. -/
def bits (b : UInt8) : List Bool :=
  (List.range 8).map b.toBitVec.getMsbD

def bitsOf (bs : List UInt8) : List Bool :=
  bs.flatMap bits

theorem length_bitsOf (bs : List UInt8) : (bitsOf bs).length = bs.length * 8 := by
  induction bs with
  | nil => rfl
  | cons b bs ih =>
      rw [bitsOf, List.flatMap_cons, List.length_append, ← bitsOf, ih, List.length_cons]
      simp [bits]
      omega

/-- The bit at a position is in the byte at an eighth of it. -/
theorem getElem?_bitsOf (bs : List UInt8) (k : Nat) :
    (bitsOf bs)[k]? = bs[k / 8]?.map fun b => b.toBitVec.getMsbD (k % 8) := by
  induction bs generalizing k with
  | nil => simp [bitsOf]
  | cons b bs ih =>
      have hlength : (bits b).length = 8 := by simp [bits]
      rw [bitsOf, List.flatMap_cons, ← bitsOf]
      by_cases hk : k < 8
      · rw [List.getElem?_append_left (by omega), Nat.div_eq_of_lt hk, Nat.mod_eq_of_lt hk]
        simp [bits, hk]
      · obtain ⟨n, rfl⟩ : ∃ n, k = n + 8 := ⟨k - 8, by omega⟩
        rw [List.getElem?_append_right (by omega), hlength, Nat.add_sub_cancel, ih,
          Nat.add_div_right n (by decide), Nat.add_mod_right, List.getElem?_cons_succ]

/-- A byte with one bit set. -/
theorem getMsbD_shifted : ∀ i j : Fin 8,
    ((0x80 : UInt8) >>> UInt8.ofNat i).toBitVec.getMsbD j = decide (j.val = i.val) := by
  decide

theorem getMsbD_flipBit (i : Nat) (b : UInt8) {j : Nat} (hj : j < 8) :
    (flipBit i b).toBitVec.getMsbD j = (b.toBitVec.getMsbD j ^^ decide (j = i % 8)) := by
  have hshifted := getMsbD_shifted ⟨i % 8, Nat.mod_lt i (by decide)⟩ ⟨j, hj⟩
  rw [flipBit, UInt8.toBitVec_xor, BitVec.getMsbD_xor, hshifted]

theorem bitsOf_mapAt_flipBit (bs : List UInt8) (i : Nat) :
    bitsOf (mapAt (flipBit i) (i / 8) bs) = mapAt not i (bitsOf bs) := by
  refine List.ext_getElem? fun k => ?_
  have hk : k % 8 < 8 := Nat.mod_lt k (by decide)
  rw [getElem?_mapAt, getElem?_bitsOf, getElem?_bitsOf, getElem?_mapAt]
  by_cases hbyte : k / 8 = i / 8
  · have hbit : k % 8 = i % 8 ↔ k = i := by omega
    rw [if_pos hbyte, Option.map_map]
    simp only [Function.comp_def, getMsbD_flipBit i _ hk, hbit]
    by_cases hsame : k = i
    · simp [hsame, Function.comp_def]
    · simp [hsame]
  · have hsame : k ≠ i := fun hsame => hbyte (congrArg (· / 8) hsame)
    rw [if_neg hbyte, if_neg hsame]

theorem positional_shiftedChar : shiftedChar.Positional String.toList shiftChar where
  count _ := String.length_toList.symm
  mutate _ _ := String.toList_ofList
  unmutated _ := rfl
  moves := shiftChar_ne

theorem positional_shiftedByte : shiftedByte.Positional id nextByte where
  count _ := rfl
  mutate _ _ := rfl
  unmutated _ := rfl
  moves := nextByte_ne

theorem positional_flippedBit : flippedBit.Positional bitsOf not where
  count bs := (length_bitsOf bs).symm
  mutate := bitsOf_mapAt_flipBit
  unmutated _ := rfl
  moves b := by cases b <;> decide

end Mutation

namespace Device

/-- An enumeration from the start to the end, with its results. -/
def Enumerates (d : Device) (payload : Json) (rs : List Json) : Prop :=
  ∃ acc, d.start payload = .ok acc ∧ d.Completes payload acc rs

/-- A machine that takes the steps of a walker enumerates to the end of the walk. -/
theorem enumerates_ofMachine {M P C O : Type} {p : Codec P} {c : Codec C} {w : Machine M P C O}
    {v : Walker P C O} {payload : Json} {x : P} {rs : List O} (hp : p.Lossless) (hc : c.Lossless)
    (hx : p.read? payload = some x) (hstart : w.start x = v.start x)
    (hstage : ∀ s a, w.stage s x a = .ok (v.step x a)) (hwalk : v.Walks x (v.start x) rs)
    (kind : TransformerKind) (write : O → Json) :
    (ofMachine kind w p c write).Enumerates payload (rs.map write) := by
  have hbegun : (ofMachine kind w p c write).start payload =
      .ok ((Codec.accumulator p c).write (v.start x)) := by
    simp only [ofMachine, Transformer.readPayload, hx, ← hstart]
    rfl
  have hacc := hp.accumulator hc (v.start x)
  exact ⟨_, hbegun, completes_ofMachine hstage hp hc hx hwalk hacc kind write⟩

/-- A space is enumerated position by position. -/
theorem enumerates_ofSpace {P O : Type} {m : Space P O} {p : Codec P} (hp : p.Lossless) {x : P}
    (fits : m.count x ≤ 0x10000000000000000) (kind : TransformerKind) (write : O → Json) :
    (ofSpace kind m p write).Enumerates (p.write x) ((m.results x).map write) :=
  enumerates_ofMachine hp Codec.lossless_word (hp x) rfl (fun s a => m.stage_machine s x a)
    (Space.walks fits x) kind write

/-- Texts are enumerated by their characters, arrays by their bytes or bits: one result for each,
or the payload once where there is none.  Payloads are no longer than a word can count, as are all
that a machine holds. -/
theorem mutations_one_by_one (exceptions : List StoreException) :
    (∀ s : String, s.length ≤ 0x10000000000000000 → ∃ rs,
      (make exceptions .text).Enumerates (.str s) (rs.map .str) ∧
      rs.length = max 1 s.length ∧ OneByOne String.toList Mutation.shiftChar s rs) ∧
    (∀ bs : List UInt8, bs.length ≤ 0x10000000000000000 → ∃ rs,
      (make exceptions .textBytes).Enumerates (Codec.writeBytes bs) (rs.map Codec.writeBytes) ∧
      rs.length = max 1 bs.length ∧ OneByOne id Mutation.nextByte bs rs) ∧
    (∀ bs : List UInt8, bs.length * 8 ≤ 0x10000000000000000 → ∃ rs,
      (make exceptions .bitBytes).Enumerates (Codec.writeBytes bs) (rs.map Codec.writeBytes) ∧
      rs.length = max 1 (bs.length * 8) ∧ OneByOne Mutation.bitsOf not bs rs) ∧
    ∀ c, (Mutation.shiftChar c).toNat = (c.toNat + 1) % 127 + 33 ∧
      '!' ≤ Mutation.shiftChar c ∧ Mutation.shiftChar c ≤ '\u009F' := by
  refine ⟨fun s hs => ?_, fun bs hbs => ?_, fun bs hbs => ?_, fun c => ?_⟩
  · have hlength := Mutation.positional_shiftedChar.length_results s
    rw [String.length_toList] at hlength
    exact ⟨_, enumerates_ofSpace Codec.lossless_text hs _ _, hlength,
      Mutation.positional_shiftedChar.oneByOne s⟩
  · exact ⟨_, enumerates_ofSpace Codec.lossless_bytes hbs _ _,
      Mutation.positional_shiftedByte.length_results bs,
      Mutation.positional_shiftedByte.oneByOne bs⟩
  · have hlength := Mutation.positional_flippedBit.length_results bs
    rw [Mutation.length_bitsOf] at hlength
    exact ⟨_, enumerates_ofSpace Codec.lossless_bytes hbs _ _, hlength,
      Mutation.positional_flippedBit.oneByOne bs⟩
  · exact ⟨Mutation.toNat_shiftChar c, Mutation.shiftChar_range c⟩

theorem mutations_one_by_one_tildes :
    (∃ rs, (make [] .text).Enumerates (.str "~é~") (rs.map .str) ∧ rs.length = 3 ∧
      OneByOne String.toList Mutation.shiftChar "~é~" rs) ∧
    (∃ rs, (make [] .textBytes).Enumerates (Codec.writeBytes [126, 255])
      (rs.map Codec.writeBytes) ∧ rs.length = 2 ∧ OneByOne id Mutation.nextByte [126, 255] rs) ∧
    ∃ rs, (make [] .bitBytes).Enumerates (Codec.writeBytes [126, 255])
      (rs.map Codec.writeBytes) ∧ rs.length = 16 ∧ OneByOne Mutation.bitsOf not [126, 255] rs := by
  obtain ⟨htext, hbytes, hbits, -⟩ := mutations_one_by_one []
  exact ⟨htext "~é~" (by decide), hbytes [126, 255] (by decide), hbits [126, 255] (by decide)⟩

end Device

end Faultline
