import Faultline.Pattern.CharClass

/-!
# Patterns

Regular expressions and the texts that contain a match.  A pattern over a fixed text is first
resolved: every atom becomes the set of positions at which it applies, as the bits of a number.
`ends` then takes the set of positions where a match may start to the set of positions where it
may end, so that the work grows with the size of the pattern and of the text and never with the
number of ways to match.
-/

namespace Faultline

namespace Pattern

/-- Which side of a position belongs to a word. -/
inductive Edge where
  | boundary
  | inside
  | start
  | stop
  | beforeStart
  | afterStop
  deriving DecidableEq

/-- A condition on the characters at both sides of a position. -/
inductive Assertion where
  | textStart
  | textEnd
  /-- Behind a line break; `paired` counts a carriage return as part of it. -/
  | lineStart (paired : Bool)
  | lineEnd (paired : Bool)
  /-- At an edge of a word, of all characters of words or of those of ASCII. -/
  | word (edge : Edge) (unicode : Bool)
  deriving DecidableEq

/-- What matches at one position. -/
inductive Atom where
  /-- These characters, one after the other. -/
  | literal (cs : List Char)
  | cls (s : CharSet)
  | look (a : Assertion)
  deriving DecidableEq

namespace Assertion

def isWord (unicode : Bool) : Option Char → Bool
  | some c => (CharClass.word unicode).contains c.toNat
  | none => false

def holds (before after : Option Char) : Assertion → Bool
  | textStart => before.isNone
  | textEnd => after.isNone
  | lineStart false => before.isNone || before == some '\n'
  | lineEnd false => after.isNone || after == some '\n'
  | lineStart true =>
    before.isNone || before == some '\n' || (before == some '\r' && after != some '\n')
  | lineEnd true =>
    after.isNone || after == some '\r' || (after == some '\n' && before != some '\r')
  | word edge unicode =>
    let b := isWord unicode before
    let a := isWord unicode after
    match edge with
    | .boundary => b != a
    | .inside => b == a
    | .start => !b && a
    | .stop => b && !a
    | .beforeStart => !b
    | .afterStop => !a

end Assertion

/-- The positions where an atom applies, and by how many characters it goes on. -/
structure Move where
  positions : Nat
  length : Nat

namespace Move

/-- The positions after the move from some of the given ones. -/
def apply (m : Move) (starts : Nat) : Nat :=
  (starts &&& m.positions) <<< m.length

end Move

/-- The number with the bits of a predicate on the positions of a text, first position lowest.  A
position is given by the character before it and the text behind it. -/
def bits (p : Option Char → List Char → Bool) (before : Option Char) : List Char → Nat
  | [] => (p before []).toNat
  | c :: r => 2 * bits p (some c) r + (p before (c :: r)).toNat

namespace Atom

/-- A set as an atom: the character of a set that has no other is a literal. -/
def ofSet (s : CharSet) : Atom :=
  match s.only? with
  | some c => literal [c]
  | none => cls s

def resolve (text : List Char) : Atom → Move
  | literal cs => ⟨bits (fun _ rest => cs.isPrefixOf rest) none text, cs.length⟩
  | cls s => ⟨bits (fun _ rest => rest.head?.any fun c => s.contains c.toNat) none text, 1⟩
  | look a => ⟨bits (fun before rest => a.holds before rest.head?) none text, 0⟩

end Atom

end Pattern

/-- A regular expression over atoms. -/
inductive Pattern (α : Type) where
  | empty
  | atom (a : α)
  | seq (p q : Pattern α)
  | alt (p q : Pattern α)
  /-- At least `least` and, where there is a limit, at most `least + more` times; where there is a
  choice, as often as possible or as seldom. -/
  | repeated (p : Pattern α) (least : Nat) (more : Option Nat) (greedy : Bool)
  /-- A group with a number of its own, in which the text of its match is kept. -/
  | group (number : Nat) (p : Pattern α)
  deriving Inhabited, DecidableEq

namespace Pattern

variable {α β : Type}

def map (f : α → β) : Pattern α → Pattern β
  | empty => empty
  | atom a => atom (f a)
  | seq p q => seq (p.map f) (q.map f)
  | alt p q => alt (p.map f) (q.map f)
  | repeated p least more greedy => repeated (p.map f) least more greedy
  | group n p => group n (p.map f)

/-- Exactly `n` steps; the set that a step leaves alone needs no more of them. -/
def times (step : Nat → Nat) : Nat → Nat → Nat
  | 0, s => s
  | n + 1, s =>
    let s' := step s
    if s' = s then s else times step n s'

/-- At most `n` steps, all positions on the way kept. -/
def upTo (step : Nat → Nat) : Nat → Nat → Nat
  | 0, s => s
  | n + 1, s =>
    let s' := s ||| step s
    if s' = s then s else upTo step n s'

/-- The positions where a match that starts at one of the given positions may end, in a text of
the given length. -/
def ends (length : Nat) : Pattern Move → Nat → Nat
  | empty, s => s
  | atom m, s => m.apply s
  | seq p q, s => q.ends length (p.ends length s)
  | alt p q, s => p.ends length s ||| q.ends length s
  | repeated p least more _, s =>
    upTo (p.ends length) (more.getD (length + 1)) (times (p.ends length) least s)
  | group _ p, s => p.ends length s

/-- Whether a text contains a match. -/
def occursIn (p : Pattern Atom) (text : String) : Bool :=
  let cs := text.toList
  (p.map (Atom.resolve cs)).ends cs.length (1 <<< (cs.length + 1) - 1) != 0

end Pattern

end Faultline
