import Faultline.Binary64

/-!
# Shortest decimals

The fewest decimal digits that read back as a given double precision number.  The number lies in
an interval of reals that all round to it; for one digit, two digits and so on the number's two
neighbours on that decimal grid are tested against the interval.  The first grid with a neighbour
inside wins; of two neighbours inside, the nearer one, and the even one where both are as near.
-/

namespace Faultline.Decimal

/-- Digits after the point, `0.d₁d₂… × 10 ^ exponent`, as one whole number of `count` digits. -/
structure Digits where
  value : Nat
  count : Nat
  exponent : Int
  deriving DecidableEq, Repr

/-- The powers of ten from a signed exponent, as numerator and denominator. -/
def tenTo (k : Int) : Nat × Nat :=
  if k < 0 then (1, Nat.pow 10 k.natAbs) else (Nat.pow 10 k.natAbs, 1)

/-- The least `k` from `fuel` candidates upward with `num / den < 10 ^ k`. -/
def exponentFrom (num den : Nat) : Nat → Int → Int
  | 0, k => k
  | fuel + 1, k =>
    let (a, b) := tenTo k
    if num * b < den * a then k else exponentFrom num den fuel (k + 1)

/-- The distance of two whole numbers. -/
def gap (a b : Nat) : Nat :=
  (a - b) + (b - a)

/-- The interval of a number in quarter units of its last place: how far below and above a real
may lie, and whether the ends count. -/
structure Slack where
  below : Nat
  above : Nat
  closed : Bool

def slackOf (x : Binary64) : Slack :=
  let boundary := x.mantissa == Binary64.leading && x.shift > 0
  ⟨if boundary then 1 else 2, 2, x.mantissa % 2 == 0⟩

/-- Search of the grids with `n` digits, `n + 1` digits and so on.  The number is `num / den` and
`quarter` is a quarter of its last place over `den`. -/
def search (num den quarter : Nat) (slack : Slack) (k : Int) : Nat → Nat → Digits
  | 0, n => ⟨0, n, k⟩
  | fuel + 1, n =>
    let (a, b) := tenTo (k - n)
    let num' := num * b
    let grid := den * a
    let low := num' / grid
    let inside (c : Nat) : Bool :=
      let d := gap (c * grid) num'
      let room := (if c * grid < num' then slack.below else slack.above) * quarter * b
      c != 0 && (if slack.closed then d ≤ room else d < room)
    let high := low + 1
    let nearer :=
      let dl := gap (low * grid) num'
      let dh := gap (high * grid) num'
      if dl < dh then low else if dh < dl then high else if low % 2 == 0 then low else high
    if low * grid == num' then ⟨low, n, k⟩
    else if inside low && inside high then ⟨nearer, n, k⟩
    else if inside low then ⟨low, n, k⟩
    else if inside high then ⟨high, n, k⟩
    else search num den quarter slack k fuel (n + 1)

/-- The shortest digits of a number other than zero. -/
def shortest (x : Binary64) : Digits :=
  let den := 1 <<< 1074
  let lowest : Int := ((Nat.log2 x.units : Int) - 1075) * 30103 / 100000 - 1
  let k := exponentFrom x.units den 8 lowest
  search (4 * x.units) (4 * den) (1 <<< x.shift) (slackOf x) k 18 1

/-- Without zeros at the end, and with a carry moved into the exponent. -/
def Digits.trim (d : Digits) : List Char × Int :=
  let cs := Nat.toDigits 10 d.value
  let carried : Int := (cs.length : Int) - d.count
  ((cs.reverse.dropWhile (· == '0')).reverse, d.exponent + carried)

/-- How a number is laid out: up to which exponents without a power of ten. -/
structure Layout where
  lowest : Int
  highest : Int
  mark : String
  plus : String
  minus : String

/-- Digits with a point among them, and a power of ten where the exponent is out of the layout's
range. -/
def Layout.write (l : Layout) (digits : List Char) (exponent : Int) : String :=
  let n : Int := digits.length
  if l.lowest < exponent ∧ exponent ≤ l.highest then
    if exponent ≤ 0 then
      "0." ++ String.ofList (List.replicate exponent.natAbs '0' ++ digits)
    else if n ≤ exponent then
      String.ofList (digits ++ List.replicate (exponent - n).natAbs '0') ++ ".0"
    else
      String.ofList (digits.take exponent.natAbs) ++ "." ++
        String.ofList (digits.drop exponent.natAbs)
  else
    let fraction := digits.drop 1
    let e := exponent - 1
    String.ofList (digits.take 1) ++
      (if fraction.isEmpty then "" else "." ++ String.ofList fraction) ++ l.mark ++
      (if e < 0 then l.minus else l.plus) ++ Nat.repr e.natAbs

/-- A number in a layout, with its sign. -/
def Layout.render (l : Layout) (x : Binary64) : String :=
  let body :=
    if x.isZero then "0.0"
    else
      let (digits, exponent) := (shortest x).trim
      l.write digits exponent
  if x.isNegative then "-" ++ body else body

/-- Numbers from `0.00001` to below `10 ^ 16` have no power of ten. -/
def plain : Layout := ⟨-5, 16, "e", "+", "-"⟩

example : plain.render ⟨0x3FF0000000000000⟩ = "1.0" := by decide +kernel
example : plain.render ⟨0x8000000000000000⟩ = "-0.0" := by decide +kernel
example : plain.render ⟨0x3EE4F8B588E368F1⟩ = "0.00001" := by decide +kernel
example : plain.render ⟨0x1⟩ = "5e-324" := by decide +kernel
example : plain.render ⟨0x7FEFFFFFFFFFFFFF⟩ = "1.7976931348623157e+308" := by decide +kernel
example : plain.render ⟨0x4341C37937E08000⟩ = "1e+16" := by decide +kernel
example : plain.render ⟨0x430C6BF526340000⟩ = "1000000000000000.0" := by decide +kernel

end Faultline.Decimal
