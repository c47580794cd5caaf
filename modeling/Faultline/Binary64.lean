/-!
# Double precision numbers

Finite double precision numbers as bit patterns, with exact natural-number arithmetic behind every
operation: a magnitude is `mantissa * 2 ^ shift` in units of `2 ^ (-1074)`, and rounding takes a
quotient of naturals to the nearest pattern, ties to the even one.
-/

namespace Faultline

/-- The bit pattern of a double precision number. -/
structure Binary64 where
  bits : UInt64
  deriving DecidableEq, Inhabited

namespace Binary64

/-- The weight of the sign. -/
def signWeight : Nat := 0x8000000000000000

/-- The weight of one step of the exponent, and of the leading bit of a mantissa. -/
def leading : Nat := 0x10000000000000

def isNegative (x : Binary64) : Bool :=
  x.bits.toNat / signWeight == 1

/-- The pattern without its sign. -/
def magnitude (x : Binary64) : Nat :=
  x.bits.toNat % signWeight

/-- The whole number before the power of two. -/
def mantissa (x : Binary64) : Nat :=
  let e := x.magnitude / leading
  if e = 0 then x.magnitude else x.magnitude % leading + leading

/-- The power of two, in units of `2 ^ (-1074)`. -/
def shift (x : Binary64) : Nat :=
  x.magnitude / leading - 1

/-- The magnitude in units of `2 ^ (-1074)`. -/
def units (x : Binary64) : Nat :=
  x.mantissa <<< x.shift

def isZero (x : Binary64) : Bool :=
  x.magnitude == 0

/-- Whether the pattern stands for no number: its exponent field is full. -/
def isInfinite (x : Binary64) : Bool :=
  x.magnitude / leading == 2047

def neg (x : Binary64) : Binary64 :=
  ⟨x.bits ^^^ 0x8000000000000000⟩

/-- Equality of the numbers that two patterns stand for: the zeros are one number. -/
def same (x y : Binary64) : Bool :=
  x == y || (x.isZero && y.isZero)

/-- The quotient rounded to the nearest whole number, a half to the even one. -/
def roundHalfEven (num den : Nat) : Nat :=
  let q := num / den
  let r := num % den
  if 2 * r < den then q else if 2 * r = den then q + q % 2 else q + 1

/-- The nonnegative number nearest to a quotient; too large a quotient gives infinity. -/
def ofRatio (num den : Nat) : Binary64 :=
  let scaled := num <<< 1074
  let e := Nat.log2 (scaled / den) - 52
  let m := roundHalfEven scaled (den <<< e)
  ⟨UInt64.ofNat (min (e * leading + m) (2047 * leading))⟩

def ofNat (n : Nat) : Binary64 :=
  ofRatio n 1

/-- The product of two nonnegative numbers, rounded. -/
def mul (x y : Binary64) : Binary64 :=
  ofRatio (x.units * y.units) (1 <<< 2148)

/-- The quotient of two nonnegative numbers, rounded. -/
def div (x y : Binary64) : Binary64 :=
  ofRatio x.units y.units

theorem same_refl (x : Binary64) : x.same x = true := by simp [same]

example : ofNat 1 = ⟨0x3FF0000000000000⟩ := by decide +kernel
example : (ofRatio 1 10).bits = 0x3FB999999999999A := by decide +kernel
example : (mul (ofNat 3) (ofRatio 1 10)).bits = 0x3FD3333333333334 := by decide +kernel

end Binary64

end Faultline
