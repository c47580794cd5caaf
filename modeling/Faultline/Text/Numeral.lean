/-!
# Integer texts

Reading of a decimal integer whose value must lie between two bounds: an optional sign, then at
least one ASCII digit and nothing else.  A minus sign is part of the form only where negative
values are in range, so that `-0` is no unsigned integer.
-/

namespace Faultline.Text

/-- The value of an ASCII digit. -/
def digitValue? (c : Char) : Option Nat :=
  if '0' ≤ c ∧ c ≤ '9' then some (c.toNat - '0'.toNat) else none

/-- The value of a run of digits read after a number with value `acc`. -/
def digitsFrom (acc : Nat) : List Char → Option Nat
  | [] => some acc
  | c :: r => do digitsFrom (acc * 10 + (← digitValue? c)) r

/-- The value of a nonempty run of digits. -/
def digits? : List Char → Option Nat
  | [] => none
  | cs => digitsFrom 0 cs

/-- The value of a hexadecimal digit. -/
def hexValue? (c : Char) : Option Nat :=
  if '0' ≤ c ∧ c ≤ '9' then some (c.toNat - 48)
  else if 'a' ≤ c ∧ c ≤ 'f' then some (c.toNat - 87)
  else if 'A' ≤ c ∧ c ≤ 'F' then some (c.toNat - 55)
  else none

/-- The value of a run of hexadecimal digits read after a number with value `acc`. -/
def hexDigitsFrom (acc : Nat) : List Char → Option Nat
  | [] => some acc
  | c :: r => do hexDigitsFrom (acc * 16 + (← hexValue? c)) r

/-- The value of a nonempty run of hexadecimal digits. -/
def hexDigits? : List Char → Option Nat
  | [] => none
  | cs => hexDigitsFrom 0 cs

/-- An optional plus sign, then digits. -/
def readUnsigned? (bound : Nat) (s : String) : Option Nat := do
  let n ← match s.toList with
    | '+' :: r => digits? r
    | cs => digits? cs
  if n < bound then some n else none

/-- An optional sign, then digits, with a value from `-2^63` to `2^63 - 1`. -/
def readInt64? (s : String) : Option Int64 := do
  let i : Int ← match s.toList with
    | '+' :: r => (digits? r).map Int.ofNat
    | '-' :: r => (digits? r).map fun n => -(n : Int)
    | cs => (digits? cs).map Int.ofNat
  if -0x8000000000000000 ≤ i ∧ i < 0x8000000000000000 then some (Int64.ofInt i) else none

/-- A value below `2^64`, with an optional plus sign. -/
def readUInt64? (s : String) : Option UInt64 :=
  (readUnsigned? 0x10000000000000000 s).map UInt64.ofNat

/-- The two words for the truth values. -/
def readBool? (s : String) : Option Bool :=
  if s = "true" then some true else if s = "false" then some false else none

/-- The word for a truth value. -/
def boolText (b : Bool) : String :=
  if b then "true" else "false"

theorem readBool?_boolText (b : Bool) : readBool? (boolText b) = some b := by
  cases b <;> decide

theorem readBool?_eq_some_iff {s : String} {b : Bool} :
    readBool? s = some b ↔ s = boolText b := by
  constructor
  · intro h
    unfold readBool? at h
    split at h
    · next hs => cases h; exact hs
    · split at h
      · next hs => cases h; exact hs
      · cases h
  · rintro rfl; exact readBool?_boolText b

end Faultline.Text
