import Faultline.Json.Basic

/-!
# JSON documents

A document as it is written: members in the order of the text, names possibly repeated, and
leaves that name no value (a number out of range, an escape that names no character) still in
place.  `toJson?` is the value of a document: the last member of a name counts, a leaf without a
value spoils the whole, and nesting is limited.
-/

namespace Faultline

/-- The numeral of a number: digits before the point, behind it, and of the power of ten. -/
structure Numeral where
  negative : Bool
  whole : List Nat
  fraction : Option (List Nat)
  exponent : Option (Bool × List Nat)

namespace Numeral

/-- Digits taken into a word for as long as it stays below `2 ^ 64`, and the digits left. -/
def absorb (acc : Nat) : List Nat → Nat × List Nat
  | [] => (acc, [])
  | d :: ds =>
    let next := acc * 10 + d
    if next < 0x10000000000000000 then absorb next ds else (acc, d :: ds)

/-- A word times a power of ten, each step rounded; too large a number has no value. -/
def scale (fuel : Nat) (x : Binary64) (exponent : Int) : Option Binary64 :=
  if exponent.natAbs ≤ 308 then
    let power := Binary64.ofNat (Nat.pow 10 exponent.natAbs)
    if 0 ≤ exponent then
      let y := x.mul power
      if y.isInfinite then none else some y
    else some (x.div power)
  else if x.isZero then some x
  else if 0 ≤ exponent then none
  else match fuel with
    | 0 => some x
    | fuel + 1 => scale fuel (x.div (Binary64.ofNat (Nat.pow 10 308))) (exponent + 308)

def signed (negative : Bool) (x : Binary64) : Json :=
  Json.float (if negative then x.neg else x)

/-- The value of a numeral.  A whole numeral in range is a whole number; every other one, and
`-0`, is rounded to double precision. -/
def value? (n : Numeral) : Option Json :=
  let (word, beyond) := absorb 0 n.whole
  match n.fraction, n.exponent, beyond with
  | none, none, [] =>
    if n.negative then
      if word = 0 then some (signed true (Binary64.ofNat 0))
      else match Whole.ofInt? (-(word : Int)) with
        | some w => some (Json.int w)
        | none => some (signed true (Binary64.ofNat word))
    else (Whole.ofInt? word).map Json.int
  | fraction, exponent, _ =>
    let behind := fraction.getD []
    let (word, rest) := absorb word behind
    let point : Int := (beyond.length : Int) - ((behind.length : Int) - rest.length)
    let power : Int := match exponent with
      | none => 0
      | some (minus, ds) =>
        let e : Nat := ds.foldl (fun acc d => acc * 10 + d) 0
        if minus then -(e : Int) else e
    (scale 3 (Binary64.ofNat word) (point + power)).map (signed n.negative)

end Numeral

/-- A document as it is written. -/
inductive Document where
  | null
  | bool (b : Bool)
  | number (value : Option Json)
  | str (s : Option String)
  | arr (items : List Document)
  | obj (members : List (Option String × Document))
  deriving Inhabited

namespace Document

mutual

/-- The value of a document nested less than `depth` deep. -/
def toJsonWithin? (depth : Nat) : Document → Option Json
  | null => some Json.null
  | bool b => some (Json.bool b)
  | number value => value
  | str s => s.map Json.str
  | arr items =>
    if depth ≤ 1 then none else (itemsWithin? (depth - 1) items).map Json.arr
  | obj members =>
    if depth ≤ 1 then none
    else (membersWithin? (depth - 1) members).map fun ms => Json.obj (Entries.ofPairs ms)

def itemsWithin? (depth : Nat) : List Document → Option (List Json)
  | [] => some []
  | d :: ds => do
    let j ← toJsonWithin? depth d
    let js ← itemsWithin? depth ds
    return j :: js

def membersWithin? (depth : Nat) : List (Option String × Document) → Option (List (String × Json))
  | [] => some []
  | (name, d) :: ms => do
    let k ← name
    let j ← toJsonWithin? depth d
    let rest ← membersWithin? depth ms
    return (k, j) :: rest

end

/-- How deep a document may be nested: less than this many brackets. -/
def nestingLimit : Nat := 128

/-- The value of a document. -/
def toJson? (d : Document) : Option Json :=
  toJsonWithin? nestingLimit d

mutual

/-- A value as a document that has it. -/
def ofJson : Json → Document
  | .null => null
  | .bool b => bool b
  | .int n => number (some (.int n))
  | .float x => number (some (.float x))
  | .str s => str (some s)
  | .arr items => arr (ofItems items)
  | .obj members => obj (ofMembers members)

def ofItems : List Json → List Document
  | [] => []
  | j :: js => ofJson j :: ofItems js

def ofMembers : List (String × Json) → List (Option String × Document)
  | [] => []
  | (k, j) :: ms => (some k, ofJson j) :: ofMembers ms

end

end Document

end Faultline
