import Faultline.Pattern.Normal

/-!
# Room that patterns take

A pattern is run by two machines over the bytes of a text, one that reads forward and one that
reads backward, in which every repetition is written out.  `forwardRoom` and `backwardRoom` are
the bytes of memory that these machines take: a state takes as much as any other, and more for
each of its ways out where it may have several.  A class goes over to bytes as the sequences of
byte ranges that encode its characters; the forward machine shares what sequences have in common
at both ends, the backward machine what they have in common at their front.
-/

namespace Faultline.Pattern

namespace Room

/-- The room of a state. -/
def state : Nat := 32

/-- The room of a way out of a state that reads a byte. -/
def way : Nat := 8

/-- The room of a way out of a state that reads nothing. -/
def jump : Nat := 4

end Room

/-! ### Encodings of classes -/

/-- Bytes from the first one up to the second one. -/
abbrev ByteRange := Nat × Nat

/-- The bytes of a code point. -/
def encode (n : Nat) : List Nat :=
  if n < 0x80 then [n]
  else if n < 0x800 then [0xC0 + n / 0x40, 0x80 + n % 0x40]
  else if n < 0x10000 then [0xE0 + n / 0x1000, 0x80 + n / 0x40 % 0x40, 0x80 + n % 0x40]
  else [0xF0 + n / 0x40000, 0x80 + n / 0x1000 % 0x40, 0x80 + n / 0x40 % 0x40, 0x80 + n % 0x40]

/-- Where a range of code points has to be divided because its ends are encoded with different
numbers of bytes. -/
def divideLength? (lo hi : Nat) : Option Nat :=
  [0x7F, 0x7FF, 0xFFFF].find? fun m => lo ≤ m && m < hi

/-- Where a range of code points has to be divided so that bytes behind the first different one
run through all their values. -/
def divideBlock? (lo hi : Nat) : Option Nat :=
  [0x40, 0x1000, 0x40000].findSome? fun w =>
    if lo / w = hi / w then none
    else if lo % w ≠ 0 then some (lo / w * w + (w - 1))
    else if hi % w ≠ w - 1 then some (hi / w * w - 1)
    else none

/-- The last code point of the front part of a range that has to be divided. -/
def divide? (lo hi : Nat) : Option Nat :=
  (divideLength? lo hi).orElse fun _ => if hi < 0x80 then none else divideBlock? lo hi

/-- The sequences of byte ranges that encode a range of code points, in increasing order. -/
def sequences (lo hi : Nat) : List (List ByteRange) :=
  match divide? lo hi with
  | some m => if lo ≤ m ∧ m < hi then sequences lo m ++ sequences (m + 1) hi else []
  | none => [(encode lo).zip (encode hi)]
termination_by hi - lo

/-- The sequences of byte ranges that encode a set. -/
def CharSet.sequences (s : CharSet) : List (List ByteRange) :=
  s.ranges.flatMap fun r =>
    (if r.1 ≤ min r.2 0xD7FF then Pattern.sequences r.1 (min r.2 0xD7FF) else []) ++
      if max r.1 0xE000 ≤ r.2 then Pattern.sequences (max r.1 0xE000) r.2 else []

/-- How many byte ranges at the front of two sequences are the same. -/
def sharedFront : List ByteRange → List ByteRange → Nat
  | a :: as, b :: bs => if a = b then sharedFront as bs + 1 else 0
  | _, _ => 0

/-- The byte ranges of increasing sequences behind what each has in common with the one before. -/
def freshRanges (before : List ByteRange) : List (List ByteRange) → Nat
  | [] => 0
  | s :: ss => s.length - sharedFront before s + freshRanges s ss

/-- What stands behind each first byte range of increasing sequences. -/
def tails : List (List ByteRange) → List (ByteRange × List (List ByteRange))
  | [] => []
  | [] :: ss => tails ss
  | (b :: bs) :: ss =>
    match tails ss with
    | [] => [(b, [bs])]
    | (c, ts) :: gs => if b = c then (b, bs :: ts) :: gs else (b, [bs]) :: (c, ts) :: gs

/-- The sequences that may be ahead after some bytes of increasing sequences, as long as some byte
is ahead. -/
def pending : Nat → List (List ByteRange) → List (List (List ByteRange))
  | 0, _ => []
  | n + 1, ss =>
    match tails ss with
    | [] => []
    | gs => ss :: gs.flatMap fun g => pending n g.2

/-- The room of a class of ASCII characters. -/
def asciiRoom (s : CharSet) : Nat :=
  2 * Room.state + s.ranges.length * Room.way

def forwardClassRoom (s : CharSet) : Nat :=
  if s.isAscii then asciiRoom s
  else
    (pending 4 s.sequences).eraseDups.foldl
      (fun n ss => n + (Room.state + (tails ss).length * Room.way)) Room.state

def backwardClassRoom (s : CharSet) : Nat :=
  if s.isAscii then asciiRoom s
  else
    let ss := s.sequences
    (2 + freshRanges [] ss) * Room.state + ss.length * Room.jump

/-! ### Choices of literals -/

/-- Words in the runs between empty ones, with one more run than there are empty words. -/
def segments : List (List UInt8) → List (List (List UInt8))
  | [] => [[]]
  | w :: ws =>
    match w, segments ws with
    | [], ss => [] :: ss
    | w, [] => [[w]]
    | w, s :: ss => (w :: s) :: ss

/-- The same words, but with one empty word in place of several at the front. -/
def oneFront (ws : List (List UInt8)) : List (List UInt8) :=
  if ws.head? = some [] then [] :: ws.dropWhile List.isEmpty else ws

/-- What words go on with behind one of their first bytes. -/
def behind (b : UInt8) (ws : List (List UInt8)) : List (List UInt8) :=
  ws.filterMap fun w => if w.head? = some b then some w.tail else none

/-- The room of a tree of words that shares what they have in common at their front, without the
place where all words end.  A word that ends inside of the tree has its place in the order of the
words before it and behind it. -/
def treeRoom : Nat → List (List UInt8) → Nat
  | 0, _ => 0
  | fuel + 1, ws =>
    if ws.all List.isEmpty then 0
    else
      let runs := segments (oneFront ws)
      let own := runs.foldl (fun n run =>
        n + match (run.filterMap List.head?).eraseDups.length with
          | 0 => 0
          | 1 => Room.state + Room.jump
          | k => Room.state + k * Room.way + Room.jump) Room.state
      let below := runs.foldl (fun n run =>
        (run.filterMap List.head?).eraseDups.foldl
          (fun n b => n + treeRoom fuel (behind b run)) n) 0
      own + (runs.length - 1) * Room.jump + below

/-- The room of a choice of words. -/
def wordsRoom (ws : List (List UInt8)) : Nat :=
  Room.state + treeRoom (ws.foldl (fun n w => max n w.length) 0 + 1) ws

/-- The words of a choice of literals. -/
def words? : Pattern Atom → Option (List (List Char))
  | atom (.literal cs) => some [cs]
  | alt (atom (.literal cs)) q => q.words?.map (cs :: ·)
  | _ => none

def bytes (cs : List Char) : List UInt8 :=
  cs.flatMap String.utf8EncodeChar

/-! ### Patterns -/

/-- The least number of characters of a match, where no class is empty. -/
def shortest? : Pattern Atom → Option Nat
  | empty => some 0
  | atom (.literal cs) => some cs.length
  | atom (.cls s) => if s.ranges.isEmpty then none else some 1
  | atom (.look _) => some 0
  | seq p q => do return (← p.shortest?) + (← q.shortest?)
  | alt p q => do return min (← p.shortest?) (← q.shortest?)
  | repeated p least _ _ => p.shortest?.map (· * least)
  | group _ p => p.shortest?

/-- Whether a match starts where the text starts, as far as the form of a pattern shows it. -/
def startsText : Pattern Atom → Bool
  | atom (.look .textStart) => true
  | seq p q => p.startsText || (p.isNull && q.startsText)
  | alt p q => p.startsText && q.startsText
  | repeated p least _ _ => least != 0 && p.startsText
  | group _ p => p.startsText
  | _ => false

/-- Whether a match ends where the text ends, as far as the form of a pattern shows it. -/
def endsText : Pattern Atom → Bool
  | atom (.look .textEnd) => true
  | seq p q => q.endsText || (q.isNull && p.endsText)
  | alt p q => p.endsText && q.endsText
  | repeated p least _ _ => least != 0 && p.endsText
  | group _ p => p.endsText
  | _ => false

/-- The room of a repetition of what takes room `r`.  A repetition without a limit goes back to
its last turn; one with a limit may be left before each of the turns that are not needed. -/
def repeatedRoom (r : Nat) (isShort : Bool) (least : Nat) (more : Option Nat) : Nat :=
  let exit := Room.state + 2 * Room.jump
  match least, more with
  | 0, some 1 => r + exit + Room.state
  | 0, none => if isShort then r + 2 * exit + Room.state else r + exit
  | n, none => n * r + exit
  | n, some 0 => n * r
  | n, some k => (if n = 0 then Room.state else n * r) + Room.state + k * (r + exit)

/-- The room of a pattern, forward or backward; `inChoice` holds for the rest of a choice. -/
def room (forward inChoice : Bool) : Pattern Atom → Nat
  | empty => Room.state
  | atom (.literal cs) => (bytes cs).length * Room.state
  | atom (.cls s) => if forward then forwardClassRoom s else backwardClassRoom s
  | atom (.look _) => Room.state
  | seq p q => p.room forward false + q.room forward false
  | alt p q =>
    let each := p.room forward false + q.room forward true
    if inChoice then each
    else
      match (alt p q).words? with
      | some ws =>
        wordsRoom (ws.map fun cs => if forward then bytes cs else (bytes cs).reverse)
      | none => each + 2 * Room.state + (alt p q).branches.length * Room.jump
  | repeated p least more _ =>
    repeatedRoom (p.room forward false) (p.shortest?.all (· == 0)) least more
  | group _ p => p.room forward false + if forward then 2 * Room.state else 0

/-- The room of what passes a text up to a match. -/
def approachRoom (anchored : Bool) : Nat :=
  if anchored then Room.state else 3 * Room.state + Room.way + 2 * Room.jump

/-- The room of the machine that finds where a match ends, and the groups in it. -/
def forwardRoom (p : Pattern Atom) : Nat :=
  approachRoom p.startsText + 3 * Room.state + p.room true false

/-- The room of the machine that finds where a match starts. -/
def backwardRoom (p : Pattern Atom) : Nat :=
  approachRoom p.endsText + Room.state + p.room false false

end Faultline.Pattern
