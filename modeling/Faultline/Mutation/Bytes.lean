import Faultline.Mutation.Text

/-!
# Mutations of byte arrays

The next byte at each position, one flipped bit at each position, the other truth value, and six
replacements that no caller expects.
-/

namespace Faultline.Mutation

/-- The next byte; `~` is followed by `!`. -/
def nextByte (b : UInt8) : UInt8 :=
  if b = 0x7E then 0x21 else b + 1

def shiftedByte : Space (List UInt8) (List UInt8) where
  count bs := bs.length
  mutate bs i := mapAt nextByte i bs
  unmutated bs := bs

/-- A bit of a byte flipped, counted from the most significant one. -/
def flipBit (i : Nat) (b : UInt8) : UInt8 :=
  b ^^^ (0x80 >>> UInt8.ofNat (i % 8))

def flippedBit : Space (List UInt8) (List UInt8) where
  count bs := bs.length * 8
  mutate bs i := mapAt (flipBit i) (i / 8) bs
  unmutated bs := bs

/-- The bytes of a text. -/
def bytesOf (s : String) : List UInt8 :=
  s.toUTF8.data.toList

/-- The text that bytes encode, if they encode one. -/
def textOf? (bs : List UInt8) : Option String :=
  String.fromUTF8? ⟨bs.toArray⟩

def negatedBoolBytes : Space (List UInt8) (List UInt8) where
  count bs := if ((textOf? bs).bind Text.readBool?).isSome then 1 else 0
  mutate bs _ :=
    match (textOf? bs).bind Text.readBool? with
    | some b => bytesOf (Text.boolText (!b))
    | none => bs
  unmutated bs := bs

/-- The replacements in order; the last one is no array at all. -/
def unexpectedValues : List (Option String) :=
  [some "", some "ThisIsATestString", some "abcd", some "1234!!", some "-11", none]

def unexpectedBytes : Space (List UInt8) (Option (List UInt8)) where
  count _ := unexpectedValues.length
  mutate _ i := ((unexpectedValues[i]?).getD none).map bytesOf
  unmutated bs := some bs

end Faultline.Mutation
