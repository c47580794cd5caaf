import Faultline.Pattern.Folding
import Faultline.Pattern.Size
import Faultline.Text.Blank
import Faultline.Text.Numeral

/-!
# Reading patterns

The grammar of patterns: alternatives of sequences of items, where an item is a character, a
class, an assertion or a group, perhaps repeated.  Modes are switched inside a group from the
place of the switch to the group's end.  There are no look-around assertions and no references to
groups.  A pattern that nests too deep, or that takes too much room when its repetitions are
written out, is refused like one that is not well formed.
-/

namespace Faultline

namespace Pattern

/-- How the items ahead are read. -/
structure Modes where
  ignoreCase : Bool := true
  multiline : Bool := false
  dotAll : Bool := false
  paired : Bool := false
  unicode : Bool := true
  /-- Repetitions take as little as possible, and as much with the sign for little. -/
  swapped : Bool := false
  /-- Blanks and comments between items are skipped. -/
  spaced : Bool := false
  deriving Inhabited

/-- The characters ahead, the modes in force, and how many numbered groups there are so far, with
the names of those that have one. -/
structure Reading where
  rest : List Char
  modes : Modes := {}
  groups : Nat := 0
  names : List String := []

/-- A scanner, which may refuse. -/
abbrev Scan := StateT Reading Option

namespace Scan

variable {α : Type}

def refuse : Scan α := fun _ => none

def peek : Scan (Option Char) := fun s => some (s.rest.head?, s)

def modes : Scan Modes := fun s => some (s.modes, s)

def setModes (m : Modes) : Scan Unit := fun s => some ((), { s with modes := m })

/-- The next character is passed. -/
def bump : Scan Unit := fun s => some ((), { s with rest := s.rest.tail })

/-- The next character, which there must be. -/
def next : Scan Char := fun s =>
  match s.rest with
  | c :: r => some (c, { s with rest := r })
  | [] => none

/-- A text ahead is passed, if it is there. -/
def take (t : String) : Scan Bool := fun s =>
  if t.toList.isPrefixOf s.rest then
    some (true, { s with rest := s.rest.drop t.length })
  else some (false, s)

/-- The first of several texts that is ahead is passed, if there is one. -/
def takeOne : List String → Scan Bool
  | [] => return false
  | t :: ts => do if ← take t then return true else takeOne ts

def takeWhile (p : Char → Bool) : Scan (List Char) := fun s =>
  some (s.rest.takeWhile p, { s with rest := s.rest.dropWhile p })

/-- Blanks, and comments from a number sign to the end of its line. -/
def dropGaps (comment : Bool) : List Char → List Char
  | [] => []
  | c :: r =>
    if comment then dropGaps (c != '\n') r
    else if Text.isBlank c then dropGaps false r
    else if c == '#' then dropGaps true r
    else c :: r

/-- What does not count between items is passed. -/
def skip : Scan Unit := fun s =>
  some ((), if s.modes.spaced then { s with rest := dropGaps false s.rest } else s)

def bumpSkip : Scan Unit := do bump; skip

/-- The next character, with what does not count behind it. -/
def nextSkip : Scan Char := do
  let c ← next
  skip
  return c

/-- The scanner's result, if it succeeds; otherwise nothing is passed. -/
def attempt (p : Scan α) : Scan (Option α) := fun s =>
  match p s with
  | some (a, s') => some (some a, s')
  | none => some (none, s)

def expect (c : Char) : Scan Unit := do
  if (← next) != c then refuse

def ofOption : Option α → Scan α
  | some a => pure a
  | none => refuse

end Scan

open Scan

/-- A piece of a pattern with its depth, and whether it may be repeated. -/
structure Piece where
  pattern : Pattern Atom
  depth : Nat
  repeatable : Bool := true
  deriving Inhabited

namespace Piece

def maxDepth (ps : List Piece) : Nat :=
  ps.foldl (fun n p => max n p.depth) 0

/-- Pieces one after the other. -/
def sequence : List Piece → Piece
  | [] => ⟨.empty, 0, true⟩
  | [p] => p
  | ps => ⟨concat (ps.map (·.pattern)), maxDepth ps + 1, true⟩

/-- Pieces to choose from. -/
def choice : List Piece → Piece
  | [] => ⟨.empty, 0, true⟩
  | [p] => p
  | ps => ⟨Pattern.choice (ps.map (·.pattern)), maxDepth ps + 1, true⟩

def ofAtom (a : Atom) (depth : Nat) : Piece := ⟨.atom a, depth, true⟩

def repeated (p : Piece) (least : Nat) (more : Option Nat) (greedy : Bool) : Piece :=
  ⟨p.pattern.iterate least more greedy, p.depth + 1, true⟩

end Piece

/-- The set as the modes have it. -/
def Modes.fold (m : Modes) (s : CharSet) : CharSet :=
  if m.ignoreCase then Folding.closure (if m.unicode then Folding.pairs else Folding.asciiPairs) s
  else s

/-- A set, or the characters that are not in it.  Where characters are bytes, a set has to stay
within ASCII, since no other byte is a character. -/
def Modes.closed? (m : Modes) (negated : Bool) (s : CharSet) : Option CharSet :=
  let s := s.complementIf negated
  if m.unicode || s.isAscii then some s else none

/-- What a backslash and the characters behind it stand for. -/
inductive Escaped where
  /-- `byte` holds for a code of two digits. -/
  | char (c : Char) (byte : Bool)
  | cls (s : CharSet)
  | look (a : Assertion)

def isMeta (c : Char) : Bool :=
  "\\.+*?()|[]\x7b\x7d^$#&-~".toList.contains c

/-- Characters that stand for themselves behind a backslash. -/
def isEscapable (c : Char) : Bool :=
  isMeta c || (c.toNat < 0x80 && !c.isAlphanum && c != '<' && c != '>')

def charOfCode? (n : Nat) : Option Char :=
  if h : n.isValidChar then some (Char.ofNatAux n h) else none

/-- A number of hexadecimal digits, or any number of them in braces. -/
def scanCode (count : Nat) : Scan (List Char) := do
  if (← peek) == some '\x7b' then
    bumpSkip
    let ds ← braced (← get).rest.length
    skip
    return ds
  else digits count
where
  braced : Nat → Scan (List Char)
    | 0 => refuse
    | n + 1 => do
      let c ← next
      if c == '\x7d' then return []
      skip
      return c :: (← braced n)
  digits : Nat → Scan (List Char)
    | 0 => return []
    | n + 1 => do
      let c ← nextSkip
      return c :: (← digits n)

/-- A character by its code. -/
def scanCoded (count : Nat) : Scan Escaped := do
  let inBraces := (← peek) == some '\x7b'
  let ds ← scanCode count
  let n ← ofOption (Text.hexDigits? ds)
  return .char (← ofOption (charOfCode? n)) (count == 2 && !inBraces)

/-- The text up to a closing brace, between items. -/
def scanBraced : Nat → Scan (List Char)
  | 0 => refuse
  | n + 1 => do
    let c ← next
    if c == '\x7d' then return []
    skip
    return c :: (← scanBraced n)

/-- The two parts of a text around the first place where one of the signs stands. -/
def splitAtSign (cs sign : List Char) : Option (List Char × List Char) :=
  match cs with
  | [] => none
  | c :: r =>
    if sign.isPrefixOf (c :: r) then some ([], (c :: r).drop sign.length)
    else (splitAtSign r sign).map fun p => (c :: p.1, p.2)

/-- A class by the name of a property. -/
def scanProperty (negated : Bool) : Scan Escaped := do
  let m ← modes
  let (c, negated) ← do
    let c ← next
    if c == '\x7b' then
      skip
      let cs ← scanBraced ((← get).rest.length + 1)
      match splitAtSign cs ['!', '='], splitAtSign cs [':'], splitAtSign cs ['='] with
      | some (p, v), _, _ => pure (CharClass.propertyValue? p v, !negated)
      | none, some (p, v), _ | none, none, some (p, v) =>
        pure (CharClass.propertyValue? p v, negated)
      | none, none, none => pure (CharClass.property? cs, negated)
    else
      if c == '\\' then refuse
      skip
      pure (CharClass.property? [c], negated)
  if !m.unicode then refuse
  return .cls ((m.fold (← ofOption c)).complementIf negated)

def edgeOfName? (name : String) : Option Edge :=
  match name with
  | "start" => some .start
  | "end" => some .stop
  | "start-half" => some .beforeStart
  | "end-half" => some .afterStop
  | _ => none

def isEdgeLetter (c : Char) : Bool := c.isAlpha || c == '-'

/-- The letters of a name, up to the first other character. -/
def scanEdgeName : Nat → Scan (List Char)
  | 0 => return []
  | n + 1 => do
    match ← peek with
    | some c =>
      if isEdgeLetter c then
        bumpSkip
        return c :: (← scanEdgeName n)
      else return []
    | none => return []

/-- The name of an edge in braces; braces that start otherwise hold a number of repetitions. -/
def scanEdge : Scan Edge := do
  let s ← get
  match s.rest with
  | '\x7b' :: _ =>
    bumpSkip
    match ← peek with
    | none => refuse
    | some c =>
      if isEdgeLetter c then
        let name ← scanEdgeName s.rest.length
        expect '\x7d'
        ofOption (edgeOfName? (String.ofList name))
      else
        set s
        return .boundary
  | _ => return .boundary

/-- What stands behind a backslash. -/
def scanEscaped : Scan Escaped := do
  let m ← modes
  let shorthand (s : CharSet) (negated : Bool) : Scan Escaped :=
    return .cls (← ofOption (m.closed? negated s))
  let c ← next
  match c with
  | 'x' => skip; scanCoded 2
  | 'u' => skip; scanCoded 4
  | 'U' => skip; scanCoded 8
  | 'p' => skip; scanProperty false
  | 'P' => skip; scanProperty true
  | 'd' => shorthand (CharClass.decimal m.unicode) false
  | 'D' => shorthand (CharClass.decimal m.unicode) true
  | 's' => shorthand (CharClass.blank m.unicode) false
  | 'S' => shorthand (CharClass.blank m.unicode) true
  | 'w' => shorthand (CharClass.word m.unicode) false
  | 'W' => shorthand (CharClass.word m.unicode) true
  | 'a' => return .char '\x07' false
  | 'f' => return .char '\x0c' false
  | 't' => return .char '\t' false
  | 'n' => return .char '\n' false
  | 'r' => return .char '\r' false
  | 'v' => return .char '\x0b' false
  | 'A' => return .look .textStart
  | 'z' => return .look .textEnd
  | 'b' => return .look (.word (← scanEdge) m.unicode)
  | 'B' => return .look (.word .inside m.unicode)
  | '<' => return .look (.word .start m.unicode)
  | '>' => return .look (.word .stop m.unicode)
  | c => if isEscapable c then return .char c false else refuse

/-! ### Classes in brackets -/

/-- Set operations between the parts of a class. -/
inductive ClassOp where
  | inter
  | diff
  | symmDiff

/-- A part of a class with its depth. -/
structure ClassPiece where
  set : CharSet
  depth : Nat

namespace ClassPiece

/-- The items of a part together. -/
def join : List ClassPiece → ClassPiece
  | [] => ⟨.empty, 0⟩
  | [p] => p
  | ps => ⟨.unionAll (ps.map (·.set)), ps.foldl (fun n p => max n p.depth) 0 + 1⟩

/-- An operation on what stands before it and the items behind it. -/
def combine (m : Modes) (before : Option (ClassPiece × ClassOp)) (p : ClassPiece) : ClassPiece :=
  match before with
  | none => p
  | some (q, op) =>
    let s := m.fold q.set
    let t := m.fold p.set
    let set := match op with
      | .inter => s.inter t
      | .diff => s.diff t
      | .symmDiff => s.symmDiff t
    ⟨set, max q.depth p.depth + 1⟩

end ClassPiece

/-- A character of a class, which must be an ASCII one where characters are bytes. -/
def classChar (m : Modes) (c : Char) : Scan Char :=
  if m.unicode || c.toNat < 0x80 then return c else refuse

/-- An item of a class: a character or a class. -/
def scanClassItem : Scan Escaped := do
  let c ← next
  if c == '\\' then scanEscaped else return .char c false

/-- The character behind a dash, to see if the dash stands in a range: where blanks do not count,
the next one that is neither a blank nor the sign in front of a comment. -/
def peekBehind (m : Modes) (rest : List Char) : Option Char :=
  if m.spaced then
    match rest.dropWhile Text.isBlank with
    | '#' :: r => (r.dropWhile Text.isBlank).head?.orElse fun _ => rest.head?
    | r => r.head?.orElse fun _ => rest.head?
  else rest.head?

/-- A range of characters or a single item. -/
def scanClassRange : Scan CharSet := do
  let m ← modes
  let first ← scanClassItem
  skip
  let s ← get
  match s.rest with
  | [] => refuse
  | c :: r =>
    let behind := peekBehind m r
    if c != '-' || behind == some ']' || behind == some '-' then
      match first with
      | .char c _ => return .single (← classChar m c)
      | .cls s => return s
      | .look _ => refuse
    else
      bumpSkip
      match first, ← scanClassItem with
      | .char lo _, .char hi _ =>
        let lo ← classChar m lo
        let hi ← classChar m hi
        if lo ≤ hi then return .range lo hi else refuse
      | _, _ => refuse

/-- A class of ASCII characters by its name between colons. -/
def scanAsciiClass : Scan (Bool × CharSet) := do
  expect '['
  expect ':'
  let negated ← take "^"
  let name ← takeWhile (· != ':')
  if !(← take ":]") then refuse
  return (negated, ← ofOption (CharClass.ascii? (String.ofList name)))

/-- Dashes at the front of a class stand for themselves. -/
def scanDashes : Nat → Scan (List ClassPiece)
  | 0 => return []
  | n + 1 => do
    if (← peek) == some '-' then
      bumpSkip
      return ⟨.single '-', 0⟩ :: (← scanDashes n)
    else return []

mutual

/-- A class behind its opening bracket, with its depth. -/
def scanBracket : Nat → Scan ClassPiece
  | 0 => refuse
  | fuel + 1 => do
    skip
    let m ← modes
    let negated ← take "^"
    if negated then skip
    let s ← get
    let dashes ← scanDashes s.rest.length
    let front ← if dashes.isEmpty && (← peek) == some ']' then do
        bumpSkip
        pure [⟨CharSet.single ']', 0⟩]
      else pure dashes
    let set ← scanClassItems fuel none front
    return ⟨← ofOption (m.closed? negated (m.fold set.set)), set.depth + 1⟩

/-- The items of a class up to its closing bracket. -/
def scanClassItems : Nat → Option (ClassPiece × ClassOp) → List ClassPiece → Scan ClassPiece
  | 0, _, _ => refuse
  | fuel + 1, before, items => do
    skip
    let m ← modes
    let operate (op : ClassOp) : Scan ClassPiece :=
      scanClassItems fuel (some (.combine m before (.join items), op)) []
    let s ← get
    match s.rest with
    | [] => refuse
    | '[' :: _ =>
      match ← attempt scanAsciiClass with
      | some (negated, s) =>
        let s ← ofOption (m.closed? negated (m.fold s))
        scanClassItems fuel before (items ++ [⟨s, 0⟩])
      | none =>
        bump
        let nested ← scanBracket fuel
        scanClassItems fuel before (items ++ [nested])
    | ']' :: _ => do
      bump
      return .combine m before (.join items)
    | '&' :: '&' :: _ => do bump; bump; operate .inter
    | '-' :: '-' :: _ => do bump; bump; operate .diff
    | '~' :: '~' :: _ => do bump; bump; operate .symmDiff
    | _ => do
      let s ← scanClassRange
      scanClassItems fuel before (items ++ [⟨s, 0⟩])

end

/-! ### Repetitions -/

/-- The digits ahead, of those characters that count. -/
def scanDigits : Nat → Scan (List Char)
  | 0 => return []
  | n + 1 => do
    match ← peek with
    | some c =>
      if c.isDigit then
        bumpSkip
        return c :: (← scanDigits n)
      else return []
    | none => return []

/-- A decimal number below `2^32`, with blanks around it. -/
def scanCount : Scan Nat := do
  let _ ← takeWhile Text.isBlank
  let ds ← scanDigits (← get).rest.length
  let _ ← takeWhile Text.isBlank
  skip
  let n ← ofOption (Text.digits? ds)
  if n < 0x100000000 then return n else refuse

/-- The bounds in braces, behind the opening one: the least number, and how many more there may
be. -/
def scanBounds : Scan (Nat × Option Nat) := do
  skip
  let least ← scanCount
  match ← next with
  | '\x7d' => return (least, some 0)
  | ',' =>
    skip
    if ← take "\x7d" then return (least, none)
    let most ← scanCount
    expect '\x7d'
    if least ≤ most then return (least, some (most - least)) else refuse
  | _ => refuse

/-- The pieces with the first of them, the last read, repeated; a question mark ahead asks for as
few times as possible. -/
def repeatLast (least : Nat) (more : Option Nat) : List Piece → Scan (List Piece)
  | p :: ps => do
    if !p.repeatable then refuse
    let lazy ← take "?"
    return p.repeated least more ((← modes).swapped == lazy) :: ps
  | [] => refuse

/-! ### Groups and modes -/

def Modes.set (m : Modes) (letter : Char) (on : Bool) : Option Modes :=
  match letter with
  | 'i' => some { m with ignoreCase := on }
  | 'm' => some { m with multiline := on }
  | 's' => some { m with dotAll := on }
  | 'R' => some { m with paired := on }
  | 'u' => some { m with unicode := on }
  | 'x' => some { m with spaced := on }
  | 'U' => some { m with swapped := on }
  | _ => none

/-- The letters of modes up to the first of the given characters; those behind a dash are switched
off.  No letter comes twice, and a letter stands behind the dash. -/
def scanModes (m : Modes) (on : Bool) (seen : List Char) : List Char → Option (Modes × List Char)
  | [] => none
  | c :: r =>
    if c == ':' || c == ')' then
      if seen.head? == some '-' then none else some (m, c :: r)
    else if seen.contains c then none
    else if c == '-' then scanModes m false (c :: seen) r
    else do scanModes (← m.set c on) on (c :: seen) r

/-- What a group name may be made of. -/
def isNameChar (front : Bool) (c : Char) : Bool :=
  c == '_' || Property.alphabetic.contains c.toNat ||
    (!front && (c == '.' || c == '[' || c == ']' ||
      (Property.ofCategories ["nd", "nl", "no"]).contains c.toNat))

/-- A new group name and the angle behind it. -/
def scanName : Scan Unit := do
  let name ← takeWhile (· != '>')
  expect '>'
  let s ← get
  match name with
  | [] => refuse
  | c :: r =>
    let t := String.ofList name
    if isNameChar true c && r.all (isNameChar false) && !s.names.contains t then
      set { s with names := t :: s.names }
    else refuse

/-- What a parenthesis opens. -/
inductive Opening where
  /-- A switch of modes up to the end of the group around it. -/
  | switch
  /-- A group with modes of its own, and perhaps with a number. -/
  | group (inner : Modes) (number : Option Nat)

/-- The number of a new group. -/
def nextNumber : Scan Nat := do
  let s ← get
  set { s with groups := s.groups + 1 }
  return s.groups + 1

/-- What the parenthesis just passed opens. -/
def scanOpening : Scan Opening := do
  skip
  let m ← modes
  if ← takeOne ["?=", "?!", "?<=", "?<!"] then refuse
  if ← takeOne ["?P<", "?<"] then
    scanName
    return .group m (← nextNumber)
  if ← take "?" then
    let s ← get
    match scanModes m true [] s.rest with
    | some (m', ':' :: r) =>
      set { s with rest := r }
      return .group m' none
    | some (m', _ :: r) =>
      if s.rest.head? == some ')' then refuse
      set { s with rest := r, modes := m' }
      return .switch
    | _ => refuse
  return .group m (← nextNumber)

/-- A single character of a pattern. -/
def charAtom (m : Modes) (c : Char) (byte : Bool) : Scan Atom :=
  if !m.unicode && byte && c.toNat ≥ 0x80 then refuse
  else return .ofSet (m.fold (.single c))

/-- The item that starts with the given character. -/
def scanItem (c : Char) : Scan Atom := do
  let m ← modes
  match c with
  | '.' =>
    if !m.unicode then refuse
    if m.dotAll then return .cls .all
    return .cls (CharSet.ofPoints (if m.paired then [0x0A, 0x0D] else [0x0A])).complement
  | '^' => return .look (if m.multiline then .lineStart m.paired else .textStart)
  | '$' => return .look (if m.multiline then .lineEnd m.paired else .textEnd)
  | '\\' =>
    match ← scanEscaped with
    | .char c byte => charAtom m c byte
    | .cls s => return .ofSet s
    | .look a => return .look a
  | c => charAtom m c false

/-- Alternatives up to a closing parenthesis or the end, after those that were read in full and the
pieces of the one at hand, the last piece first. -/
def scanBody : Nat → List Piece → List Piece → Scan Piece
  | 0, _, _ => refuse
  | fuel + 1, done, pieces => do
    skip
    let here := Piece.sequence pieces.reverse
    match ← peek with
    | none | some ')' => return .choice (here :: done).reverse
    | some '|' =>
      bump
      scanBody fuel (here :: done) []
    | some '[' => do
      bump
      let set ← scanBracket fuel
      scanBody fuel done (.ofAtom (.ofSet set.set) set.depth :: pieces)
    | some '(' => do
      bump
      let outer ← modes
      match ← scanOpening with
      | .switch => scanBody fuel done (⟨.empty, 0, false⟩ :: pieces)
      | .group inner number =>
        setModes inner
        let body ← scanBody fuel [] []
        expect ')'
        setModes outer
        let p := number.elim body.pattern fun n => .group n body.pattern
        scanBody fuel done (⟨p, body.depth + 1, true⟩ :: pieces)
    | some '?' => do
      bump
      scanBody fuel done (← repeatLast 0 (some 1) pieces)
    | some '*' => do
      bump
      scanBody fuel done (← repeatLast 0 none pieces)
    | some '+' => do
      bump
      scanBody fuel done (← repeatLast 1 none pieces)
    | some '\x7b' => do
      bump
      let (least, more) ← scanBounds
      skip
      scanBody fuel done (← repeatLast least more pieces)
    | some c => do
      bump
      let a ← scanItem c
      scanBody fuel done (.ofAtom a 0 :: pieces)

/-- How deep a pattern may nest. -/
def depthLimit : Nat := 250

/-- How much room a pattern may take, forward and backward. -/
def roomLimit : Nat := 10 * 0x100000

/-- The pattern of a text, without regard to case until it is asked for. -/
def parse? (t : String) : Option (Pattern Atom) := do
  let cs := t.toList
  let (p, s) ← scanBody (2 * cs.length + 2) [] [] { rest := cs }
  let p' := p.pattern
  if s.rest.isEmpty && p.depth ≤ depthLimit && p'.forwardRoom ≤ roomLimit &&
      p'.backwardRoom ≤ roomLimit then some p'
  else none

end Pattern

end Faultline
