import Faultline.Proofs.Json.Scan
import Faultline.Text.Blank
import Faultline.Text.Numeral

/-!
# Reading back numerals

A numeral that was written is read as the number it stands for, with a sign (`readInt64?_intChars`)
and without (`readUInt64?_repr`).  It has no blanks, so that trimming leaves it alone.
-/

namespace Faultline.Text

open Json Document

theorem digitValue?_eq {c : Char} (h : c.isDigit = true) :
    digitValue? c = some (c.toNat - '0'.toNat) := by
  have hrange : '0' ≤ c ∧ c ≤ '9' := by
    simpa [Char.isDigit, Char.le_def, UInt32.le_iff_toNat_le] using h
  simp [digitValue?, hrange]

theorem digitsFrom_eq {cs : List Char} (h : ∀ c ∈ cs, c.isDigit = true) (acc : Nat) :
    digitsFrom acc cs = some (Nat.ofDigitChars 10 cs acc) := by
  induction cs generalizing acc with
  | nil => rfl
  | cons c cs ih =>
      have hcs := ih fun d hd => h d (List.mem_cons_of_mem c hd)
      simp [digitsFrom, digitValue?_eq (h c List.mem_cons_self), hcs, Nat.ofDigitChars,
        Nat.mul_comm]

theorem digits?_toDigits (n : Nat) : digits? (Nat.toDigits 10 n) = some n := by
  have hdigits := digitsFrom_eq (fun c (hc : c ∈ Nat.toDigits 10 n) => isDigit_of_mem_toDigits hc) 0
  rw [Nat.ofDigitChars_ten_toDigits] at hdigits
  cases h : Nat.toDigits 10 n with
  | nil => exact absurd h Nat.toDigits_ne_nil
  | cons c cs => rwa [h] at hdigits

/-- A numeral with a sign where it has one is read as its integer. -/
theorem readInt64?_intChars {i : Int} (lower : -0x8000000000000000 ≤ i)
    (upper : i < 0x8000000000000000) :
    readInt64? (String.ofList (intChars i)) = some (Int64.ofInt i) := by
  have hdigits := digits?_toDigits i.natAbs
  by_cases hneg : i < 0
  · have hi : -((i.natAbs : Nat) : Int) = i := by omega
    rw [intChars, if_pos hneg, readInt64?, String.toList_ofList]
    simp only [hdigits, Option.pure_def, Option.map_some, Option.bind_eq_bind, Option.bind_some, hi]
    exact if_pos ⟨lower, upper⟩
  · have hi : ((i.natAbs : Nat) : Int) = i := by omega
    rw [intChars, if_neg hneg, readInt64?, String.toList_ofList]
    cases h : Nat.toDigits 10 i.natAbs with
    | nil => exact absurd h Nat.toDigits_ne_nil
    | cons c cs =>
        -- a digit is no sign
        have hc : c.isDigit = true := isDigit_of_mem_toDigits (h ▸ List.mem_cons_self)
        have hplus : c ≠ '+' := by
          rintro rfl
          exact absurd hc (by decide)
        have hminus : c ≠ '-' := by
          rintro rfl
          exact absurd hc (by decide)
        rw [h] at hdigits
        split
        · next heq => exact absurd (List.cons.inj heq).1 hplus
        · next heq => exact absurd (List.cons.inj heq).1 hminus
        · simp only [hdigits, Option.map_some, Option.bind_eq_bind, Option.bind_some,
            Int.ofNat_eq_natCast, hi]
          exact if_pos ⟨lower, upper⟩

theorem isBlank_of_isDigit {c : Char} (h : c.isDigit = true) : isBlank c = false := by
  have hrange : 48 ≤ c.toNat ∧ c.toNat ≤ 57 := Char.isDigit_iff_toNat.1 h
  simp only [isBlank, Bool.or_eq_false_iff, Bool.and_eq_false_iff, decide_eq_false_iff_not,
    beq_eq_false_iff_ne]
  omega

theorem isBlank_of_mem_intChars {i : Int} {c : Char} (h : c ∈ intChars i) : isBlank c = false := by
  unfold intChars at h
  split at h
  · rcases List.mem_cons.1 h with rfl | h
    · decide
    · exact isBlank_of_isDigit (isDigit_of_mem_toDigits h)
  · exact isBlank_of_isDigit (isDigit_of_mem_toDigits h)

theorem trim_intChars (i : Int) :
    trim (String.ofList (intChars i)) = String.ofList (intChars i) := by
  rw [trim, String.toList_ofList, trimChars_eq_self]
  · exact fun c hc => isBlank_of_mem_intChars (List.mem_of_mem_head? hc)
  · exact fun c hc => isBlank_of_mem_intChars (List.mem_of_mem_getLast? hc)

theorem trim_repr (n : Nat) : trim (Nat.repr n) = Nat.repr n := by
  have hdigit : ∀ c ∈ Nat.toDigits 10 n, isBlank c = false := fun c hc =>
    isBlank_of_isDigit (isDigit_of_mem_toDigits hc)
  rw [trim, Nat.toList_repr, trimChars_eq_self]
  · rfl
  · exact fun c hc => hdigit c (List.mem_of_mem_head? hc)
  · exact fun c hc => hdigit c (List.mem_of_mem_getLast? hc)

/-- The numeral of an unsigned word is read as that word. -/
theorem readUInt64?_repr (n : UInt64) : readUInt64? (Nat.repr n.toNat) = some n := by
  have hdigits := digits?_toDigits n.toNat
  have hbound : n.toNat < 0x10000000000000000 := n.toNat_lt
  rw [readUInt64?, readUnsigned?, Nat.toList_repr]
  cases h : Nat.toDigits 10 n.toNat with
  | nil => exact absurd h Nat.toDigits_ne_nil
  | cons c cs =>
      -- a digit is no sign
      have hc : c ≠ '+' := by
        rintro rfl
        have hplus : '+'.isDigit = true := isDigit_of_mem_toDigits (h ▸ List.mem_cons_self)
        exact absurd hplus (by decide)
      rw [h] at hdigits
      split
      · next heq => exact absurd (List.cons.inj heq).1 hc
      · simp [hdigits, hbound]

end Faultline.Text
