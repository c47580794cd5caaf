import Faultline.Mutation.Space
import Faultline.Text.Blank
import Faultline.Text.Numeral

/-!
# Mutations of texts

One character shifted at each position; the other truth value; the negated integer; and two
replacements that no caller expects.
-/

namespace Faultline.Mutation

/-- A character that is always another one, from `!` to U+009F. -/
def shiftChar (c : Char) : Char :=
  Char.ofNat ((c.toNat + 1) % 127 + 33)

/-- The list with one element changed. -/
def mapAt {α : Type} (f : α → α) : Nat → List α → List α
  | _, [] => []
  | 0, a :: r => f a :: r
  | i + 1, a :: r => a :: mapAt f i r

/-- One shifted character at each position. -/
def shiftedChar : Space String String where
  count s := s.length
  mutate s i := String.ofList (mapAt shiftChar i s.toList)
  unmutated s := s

/-- The other truth value, where the text is one. -/
def negatedBool : Space String String where
  count s := if (Text.readBool? s).isSome then 1 else 0
  mutate s _ :=
    match Text.readBool? s with
    | some b => Text.boolText (!b)
    | none => s
  unmutated s := s

/-- An integer with the other sign; zero becomes one, and the least integer the largest. -/
def negateInt (i : Int64) : Int :=
  if i.toInt = 0 then 1 else min (-i.toInt) 0x7FFFFFFFFFFFFFFF

/-- The decimal numeral of an integer. -/
def intText (i : Int) : String :=
  if i < 0 then "-" ++ Nat.repr i.natAbs else Nat.repr i.natAbs

/-- The negated integer, where the text is one between blanks. -/
def negatedInt : Space String String where
  count s := if (Text.readInt64? (Text.trim s)).isSome then 1 else 0
  mutate s _ :=
    match Text.readInt64? (Text.trim s) with
    | some i => intText (negateInt i)
    | none => s
  unmutated s := s

/-- No text at all, then the empty one. -/
def unexpectedText : Space String (Option String) where
  count _ := 2
  mutate _ i := if i = 0 then none else some ""
  unmutated s := some s

theorem length_mapAt {α : Type} (f : α → α) (i : Nat) (l : List α) :
    (mapAt f i l).length = l.length := by
  induction l generalizing i with
  | nil => simp [mapAt]
  | cons a r ih => cases i <;> simp [mapAt, ih]

theorem getElem?_mapAt {α : Type} (f : α → α) (i j : Nat) (l : List α) :
    (mapAt f i l)[j]? = if j = i then (l[j]?).map f else l[j]? := by
  induction l generalizing i j with
  | nil => simp [mapAt]
  | cons a r ih =>
    cases i with
    | zero => cases j <;> simp [mapAt]
    | succ i => cases j <;> simp [mapAt, ih]

end Faultline.Mutation
