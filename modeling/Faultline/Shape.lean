import Faultline.Json.Basic

/-!
# Shapes of arguments

What the values of a type look like as JSON.  `Shape.read?` gives a value as its type writes it,
or nothing where the value does not belong to the type: a whole number given for a real one gets a
fraction part, and a tuple has exactly its length.
-/

namespace Faultline

inductive Shape where
  | any
  | unit
  | truth
  | text
  | real
  | unsigned
  | signed
  | optional (s : Shape)
  | list (s : Shape)
  | tuple (ss : List Shape)
  | dictionary (s : Shape)
  /-- A type with a reading of its own. -/
  | custom (read : Json → Option Json)

namespace Shape

/-- A whole number in double precision. -/
def realOf (n : Whole) : Binary64 :=
  let x := Binary64.ofNat n.val.natAbs
  if n.val < 0 then x.neg else x

mutual

def read? : Shape → Json → Option Json
  | any, j => some j
  | unit, .null => some .null
  | truth, .bool b => some (.bool b)
  | text, .str s => some (.str s)
  | real, .float x => some (.float x)
  | real, .int n => some (.float (realOf n))
  | unsigned, .int n => if 0 ≤ n.val then some (.int n) else none
  | signed, .int n => if n.val < 0x8000000000000000 then some (.int n) else none
  | optional _, .null => some .null
  | optional s, j => read? s j
  | list s, .arr items => (readEach? s items).map .arr
  | tuple ss, .arr items => (readTuple? ss items).map .arr
  | dictionary s, .obj members =>
    (readEach? s (members.map (·.2))).map fun vs => .obj ((members.map (·.1)).zip vs)
  | custom read, j => read j
  | _, _ => none

def readEach? (s : Shape) : List Json → Option (List Json)
  | [] => some []
  | j :: js => do return (← read? s j) :: (← readEach? s js)

def readTuple? : List Shape → List Json → Option (List Json)
  | [], [] => some []
  | s :: ss, j :: js => do return (← read? s j) :: (← readTuple? ss js)
  | _, _ => none

end

end Shape

end Faultline
