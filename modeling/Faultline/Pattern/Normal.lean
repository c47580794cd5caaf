import Faultline.Pattern.Basic

/-!
# Patterns in normal form

Patterns are put together from parts in normal form: sequences and choices lean to the right and
are not nested in one another, neighbouring literals are one, a choice of characters is a class,
what the branches of a choice have in common at their front stands before it, and no repetition
is an idle one.  A pattern matches what its parts match in the same order, so that the form has no
say in what matches; it decides how much room a pattern takes.
-/

namespace Faultline.Pattern

variable {α : Type}

/-- The parts of a sequence. -/
def parts : Pattern α → List (Pattern α)
  | seq p q => p :: q.parts
  | p => [p]

/-- The branches of a choice. -/
def branches : Pattern α → List (Pattern α)
  | alt p q => p :: q.branches
  | p => [p]

def chain : List (Pattern α) → Pattern α
  | [] => empty
  | [p] => p
  | p :: ps => seq p (chain ps)

/-- The parts of a sequence without the empty ones, and with one literal for neighbouring ones. -/
def joinLiterals : List (Pattern Atom) → List (Pattern Atom)
  | [] => []
  | empty :: ps => joinLiterals ps
  | atom (.literal cs) :: ps =>
    match joinLiterals ps with
    | atom (.literal ds) :: qs => atom (.literal (cs ++ ds)) :: qs
    | qs => atom (.literal cs) :: qs
  | p :: ps => p :: joinLiterals ps

/-- Patterns one after the other. -/
def concat (ps : List (Pattern Atom)) : Pattern Atom :=
  chain (joinLiterals (ps.flatMap parts))

/-- The character of a literal of one character. -/
def character? : Pattern Atom → Option Char
  | atom (.literal [c]) => some c
  | _ => none

def class? : Pattern Atom → Option CharSet
  | atom (.cls s) => some s
  | _ => none

/-- The set of patterns that all are single characters, or all are classes. -/
def setOf? (ps : List (Pattern Atom)) : Option CharSet :=
  match ps.mapM character? with
  | some cs => some (.ofPoints (cs.map Char.toNat))
  | none => (ps.mapM class?).map .unionAll

/-- How many parts at the front of two sequences are the same. -/
def common : List (Pattern Atom) → List (Pattern Atom) → Nat
  | p :: ps, q :: qs => if p = q then common ps qs + 1 else 0
  | _, _ => 0

/-- How many parts at the front of all sequences are the same, where all have several parts. -/
def commonFront : List (List (Pattern Atom)) → Nat
  | [] => 0
  | s :: ss =>
    if (s :: ss).all fun t => 2 ≤ t.length then ss.foldl (fun n t => min n (common s t)) s.length
    else 0

def fork : List (Pattern Atom) → Pattern Atom
  | [] => atom (.cls .empty)
  | [p] => p
  | p :: ps => alt p (fork ps)

def choiceFrom : Nat → List (Pattern Atom) → Pattern Atom
  | 0, ps => fork ps
  | fuel + 1, ps =>
    match ps.flatMap branches with
    | [] => fork []
    | [p] => p
    | ps =>
      match setOf? ps with
      | some s => atom (.ofSet s)
      | none =>
        let sequences := ps.map parts
        match commonFront sequences with
        | 0 => fork ps
        | n => concat ((sequences.headD []).take n ++
            [choiceFrom fuel (sequences.map fun s => concat (s.drop n))])

/-- How many parts a pattern has on all levels. -/
def weight : Pattern α → Nat
  | empty | atom _ => 1
  | seq p q | alt p q => p.weight + q.weight + 1
  | repeated p _ _ _ | group _ p => p.weight + 1

/-- Patterns to choose from. -/
def choice (ps : List (Pattern Atom)) : Pattern Atom :=
  choiceFrom (ps.foldl (fun n p => n + p.weight) 1) ps

/-- Whether a pattern matches nothing but the empty text. -/
def isNull : Pattern Atom → Bool
  | empty => true
  | atom (.look _) => true
  | atom _ => false
  | seq p q | alt p q => p.isNull && q.isNull
  | repeated p _ _ _ | group _ p => p.isNull

/-- A pattern repeated; what matches the empty text alone is repeated once at most. -/
def iterate (p : Pattern Atom) (least : Nat) (more : Option Nat) (greedy : Bool) : Pattern Atom :=
  let (least, more) :=
    if p.isNull then (min least 1, some ((more.elim 1 fun k => min (least + k) 1) - min least 1))
    else (least, more)
  if more = some 0 ∧ least = 0 then empty
  else if more = some 0 ∧ least = 1 then p
  else repeated p least more greedy

end Faultline.Pattern
