/-!
# Sets of characters

A set of characters is kept as the ranges of their code points, in increasing order, so that sets
of very many characters stay small and two sets can be compared.  The code points from `0xD800` to
`0xDFFF` belong to no character: a range may reach over them, and the character behind `0xD7FF` is
`0xE000`.
-/

namespace Faultline.Pattern

/-- Characters by the ranges of their code points, both ends included, in increasing order. -/
structure CharSet where
  ranges : List (Nat × Nat)
  deriving DecidableEq, Inhabited

namespace CharSet

def empty : CharSet := ⟨[]⟩

/-- A range put in front of increasing ranges that start no earlier. -/
def extend (r : Nat × Nat) : List (Nat × Nat) → List (Nat × Nat)
  | [] => [r]
  | (lo, hi) :: rs => if lo ≤ r.2 + 1 then extend (r.1, max r.2 hi) rs else r :: (lo, hi) :: rs

/-- The set of some ranges in any order; ranges that touch become one. -/
def ofRanges (rs : List (Nat × Nat)) : CharSet :=
  ⟨(rs.mergeSort fun a b => a.1 ≤ b.1).foldr extend []⟩

/-- The set of some code points in any order. -/
def ofPoints (ns : List Nat) : CharSet :=
  ofRanges (ns.map fun n => (n, n))

def range (lo hi : Char) : CharSet := ⟨[(lo.toNat, hi.toNat)]⟩

def single (c : Char) : CharSet := range c c

def all : CharSet := ⟨[(0, 0x10FFFF)]⟩

def ascii : CharSet := ⟨[(0, 0x7F)]⟩

/-- Whether a code point is in the set. -/
def contains (s : CharSet) (n : Nat) : Bool :=
  s.ranges.any fun r => r.1 ≤ n && n ≤ r.2

def isAscii (s : CharSet) : Bool :=
  s.ranges.all fun r => r.2 < 0x80

/-- The only character of a set that has no other. -/
def only? (s : CharSet) : Option Char :=
  match s.ranges with
  | [(lo, hi)] => if lo = hi then some (Char.ofNat lo) else none
  | _ => none

def union (s t : CharSet) : CharSet :=
  ofRanges (s.ranges ++ t.ranges)

def unionAll (ss : List CharSet) : CharSet :=
  ofRanges (ss.flatMap ranges)

/-- What two ranges have in common. -/
def overlap? (r t : Nat × Nat) : Option (Nat × Nat) :=
  let lo := max r.1 t.1
  let hi := min r.2 t.2
  if lo ≤ hi then some (lo, hi) else none

def inter (s t : CharSet) : CharSet :=
  ⟨s.ranges.flatMap fun r => t.ranges.filterMap (overlap? r)⟩

/-- The code point of the next character. -/
def succ (n : Nat) : Nat := if n = 0xD7FF then 0xE000 else n + 1

/-- The code point of the character before. -/
def pred (n : Nat) : Nat := if n = 0xE000 then 0xD7FF else n - 1

/-- What is left of a range without another one. -/
def cut (t r : Nat × Nat) : List (Nat × Nat) :=
  if r.2 < t.1 || t.2 < r.1 then [r]
  else
    (if r.1 < t.1 then [(r.1, pred t.1)] else []) ++
      if t.2 < r.2 then [(succ t.2, r.2)] else []

def diff (s t : CharSet) : CharSet :=
  ⟨t.ranges.foldl (fun rs r => rs.flatMap (cut r)) s.ranges⟩

def symmDiff (s t : CharSet) : CharSet :=
  (s.union t).diff (s.inter t)

/-- The ranges between increasing ranges, and behind the last one up to the last character.  Two
ranges with no character between them, as those that end and start at `0xD7FF` and `0xE000`, have
just these two ends between them. -/
def gaps (hi : Nat) : List (Nat × Nat) → List (Nat × Nat)
  | [] => if hi < 0x10FFFF then [(succ hi, 0x10FFFF)] else []
  | r :: rs =>
    let lo := succ hi
    let up := pred r.1
    (min lo up, max lo up) :: gaps r.2 rs

def complement (s : CharSet) : CharSet :=
  match s.ranges with
  | [] => all
  | r :: rs => ⟨(if 0 < r.1 then [(0, pred r.1)] else []) ++ gaps r.2 rs⟩

def complementIf (negated : Bool) (s : CharSet) : CharSet :=
  if negated then s.complement else s

end CharSet

end Faultline.Pattern
