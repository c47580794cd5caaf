import Faultline.Json.Document
import Faultline.Text.Numeral

/-!
# Reading JSON text

Strict reading of JSON text: four kinds of blanks, no control character inside quotes, no zero in
front of a whole numeral, nothing behind the value.  Each scanner takes the characters ahead and
gives back what it read with the characters it left.  A value may nest no deeper than the text is
long, which bounds the recursion.
-/

namespace Faultline

namespace Document

/-- The blanks of JSON. -/
def isGap (c : Char) : Bool :=
  c == ' ' || c == '\n' || c == '\t' || c == '\r'

def skipGap (cs : List Char) : List Char :=
  cs.dropWhile isGap

/-- The code unit of four hexadecimal digits. -/
def unit? (a b c d : Char) : Option Nat :=
  Text.hexDigits? [a, b, c, d]

/-- The character of an escape with one letter. -/
def shortEscape? (c : Char) : Option Char :=
  match c with
  | '"' => some '"'
  | '\\' => some '\\'
  | '/' => some '/'
  | 'b' => some '\x08'
  | 'f' => some '\x0c'
  | 'n' => some '\n'
  | 'r' => some '\r'
  | 't' => some '\t'
  | _ => none

def isLead (n : Nat) : Bool := 0xD800 ≤ n && n < 0xDC00

def isTrail (n : Nat) : Bool := 0xDC00 ≤ n && n < 0xE000

/-- The characters up to the closing quote, put before `acc` in reverse, with the characters left.
`whole` turns false at an escape that names no character. -/
def scanQuoted (acc : List Char) (whole : Bool) : List Char → Option (Option String × List Char)
  | [] => none
  | '"' :: r => some (if whole then some (String.ofList acc.reverse) else none, r)
  | '\\' :: 'u' :: a :: b :: c :: d :: r => do
    let n ← unit? a b c d
    if isLead n then
      match r with
      | '\\' :: 'u' :: a' :: b' :: c' :: d' :: r' => do
        let m ← unit? a' b' c' d'
        if isTrail m then
          scanQuoted (Char.ofNat (0x10000 + (n - 0xD800) * 0x400 + (m - 0xDC00)) :: acc) whole r'
        else scanQuoted acc false ('\\' :: 'u' :: a' :: b' :: c' :: d' :: r')
      | r => scanQuoted acc false r
    else if isTrail n then scanQuoted acc false r
    else scanQuoted (Char.ofNat n :: acc) whole r
  | '\\' :: e :: r => do scanQuoted ((← shortEscape? e) :: acc) whole r
  | c :: r => if c.toNat < 0x20 || c == '\\' then none else scanQuoted (c :: acc) whole r

/-- The value of an ASCII digit. -/
def digit? (c : Char) : Option Nat :=
  if '0' ≤ c ∧ c ≤ '9' then some (c.toNat - 48) else none

/-- The digits ahead, and the characters behind them. -/
def scanDigits : List Char → List Nat × List Char
  | [] => ([], [])
  | c :: r =>
    match digit? c with
    | some d => let (ds, rest) := scanDigits r; (d :: ds, rest)
    | none => ([], c :: r)

/-- The digits of a whole numeral: a zero stands alone. -/
def scanWhole (cs : List Char) : Option (List Nat × List Char) :=
  match scanDigits cs with
  | ([], _) => none
  | (0 :: _ :: _, _) => none
  | found => some found

/-- A point with the digits behind it, if there is a point. -/
def scanFraction : List Char → Option (Option (List Nat) × List Char)
  | '.' :: r =>
    match scanDigits r with
    | ([], _) => none
    | (ds, rest) => some (some ds, rest)
  | cs => some (none, cs)

/-- A power of ten with its sign, if there is one. -/
def scanExponent : List Char → Option (Option (Bool × List Nat) × List Char)
  | c :: r =>
    if c == 'e' || c == 'E' then
      let (minus, r) := match r with
        | '+' :: r => (false, r)
        | '-' :: r => (true, r)
        | r => (false, r)
      match scanDigits r with
      | ([], _) => none
      | (ds, rest) => some (some (minus, ds), rest)
    else some (none, c :: r)
  | [] => some (none, [])

def scanNumeral (cs : List Char) : Option (Numeral × List Char) := do
  let (negative, cs) := match cs with
    | '-' :: r => (true, r)
    | cs => (false, cs)
  let (whole, cs) ← scanWhole cs
  let (fraction, cs) ← scanFraction cs
  let (exponent, cs) ← scanExponent cs
  return (⟨negative, whole, fraction, exponent⟩, cs)

mutual

/-- A value, with the characters behind it.  `fuel` bounds the nesting. -/
def scanValue : Nat → List Char → Option (Document × List Char)
  | 0, _ => none
  | fuel + 1, cs =>
    match skipGap cs with
    | 'n' :: 'u' :: 'l' :: 'l' :: r => some (null, r)
    | 't' :: 'r' :: 'u' :: 'e' :: r => some (bool true, r)
    | 'f' :: 'a' :: 'l' :: 's' :: 'e' :: r => some (bool false, r)
    | '"' :: r => (scanQuoted [] true r).map fun (s, r) => (str s, r)
    | '[' :: r =>
      match skipGap r with
      | ']' :: r => some (arr [], r)
      | r => do
        let (d, r) ← scanValue fuel r
        let (ds, r) ← scanItems fuel (skipGap r)
        return (arr (d :: ds), r)
    | '\x7b' :: r =>
      match skipGap r with
      | '\x7d' :: r => some (obj [], r)
      | r => do
        let (m, r) ← scanMember fuel r
        let (ms, r) ← scanMembers fuel (skipGap r)
        return (obj (m :: ms), r)
    | cs => (scanNumeral cs).map fun (n, r) => (number n.value?, r)

/-- The items behind the first, up to the closing bracket. -/
def scanItems : Nat → List Char → Option (List Document × List Char)
  | 0, _ => none
  | fuel + 1, cs =>
    match cs with
    | ']' :: r => some ([], r)
    | ',' :: r => do
      let (d, r) ← scanValue fuel r
      let (ds, r) ← scanItems fuel (skipGap r)
      return (d :: ds, r)
    | _ => none

/-- A name, a colon and a value. -/
def scanMember : Nat → List Char → Option ((Option String × Document) × List Char)
  | 0, _ => none
  | fuel + 1, cs =>
    match skipGap cs with
    | '"' :: r => do
      let (name, r) ← scanQuoted [] true r
      match skipGap r with
      | ':' :: r => do
        let (d, r) ← scanValue fuel r
        return ((name, d), r)
      | _ => none
    | _ => none

/-- The members behind the first, up to the closing brace. -/
def scanMembers : Nat → List Char → Option (List (Option String × Document) × List Char)
  | 0, _ => none
  | fuel + 1, cs =>
    match cs with
    | '\x7d' :: r => some ([], r)
    | ',' :: r => do
      let (m, r) ← scanMember fuel r
      let (ms, r) ← scanMembers fuel (skipGap r)
      return (m :: ms, r)
    | _ => none

end

/-- The document that a text is, if it is one and nothing else. -/
def parse? (s : String) : Option Document := do
  let cs := s.toList
  let (d, r) ← scanValue (3 * cs.length + 3) cs
  if (skipGap r).isEmpty then some d else none

end Document

/-- The value that a text is. -/
def Json.parse? (s : String) : Option Json := do
  (← Document.parse? s).toJson?

end Faultline
