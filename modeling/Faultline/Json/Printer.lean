import Faultline.Json.Basic
import Faultline.Decimal.Shortest

/-!
# JSON text

The two written forms of a value: compact, without blanks, and indented by two spaces with one
member or item a line.  A text is quoted with the short escapes where there is one, `\u00xx` for
the other control characters, and every other character as it stands.
-/

namespace Faultline.Json

/-- A digit of a lower case hexadecimal numeral. -/
def hexDigit (n : Nat) : Char :=
  if n < 10 then Char.ofNat (48 + n) else Char.ofNat (87 + n)

/-- A character as it stands between quotes. -/
def escapeChar (c : Char) : List Char :=
  if c = '"' then ['\\', '"']
  else if c = '\\' then ['\\', '\\']
  else if c = '\n' then ['\\', 'n']
  else if c = '\r' then ['\\', 'r']
  else if c = '\t' then ['\\', 't']
  else if c.toNat = 0x08 then ['\\', 'b']
  else if c.toNat = 0x0C then ['\\', 'f']
  else if c.toNat < 0x20 then
    ['\\', 'u', '0', '0', hexDigit (c.toNat / 16), hexDigit (c.toNat % 16)]
  else [c]

/-- A text between quotes. -/
def quoteChars (cs : List Char) : List Char :=
  '"' :: (cs.flatMap escapeChar ++ ['"'])

/-- The decimal numeral of an integer. -/
def intChars (i : Int) : List Char :=
  if i < 0 then '-' :: Nat.toDigits 10 i.natAbs else Nat.toDigits 10 i.natAbs

mutual

/-- The compact form. -/
def chars : Json → List Char
  | null => ['n', 'u', 'l', 'l']
  | bool true => ['t', 'r', 'u', 'e']
  | bool false => ['f', 'a', 'l', 's', 'e']
  | int n => intChars n.val
  | float x => (Decimal.plain.render x).toList
  | str s => quoteChars s.toList
  | arr [] => ['[', ']']
  | arr (x :: xs) => '[' :: (chars x ++ itemChars xs)
  | obj [] => ['\x7b', '\x7d']
  | obj ((k, v) :: ms) => '\x7b' :: (quoteChars k.toList ++ ':' :: (chars v ++ memberChars ms))

/-- The items behind the first, with the closing bracket. -/
def itemChars : List Json → List Char
  | [] => [']']
  | x :: xs => ',' :: (chars x ++ itemChars xs)

/-- The members behind the first, with the closing brace. -/
def memberChars : List (String × Json) → List Char
  | [] => ['\x7d']
  | (k, v) :: ms => ',' :: (quoteChars k.toList ++ ':' :: (chars v ++ memberChars ms))

end

/-- The compact text of a value. -/
def compact (j : Json) : String :=
  String.ofList (chars j)

/-- The text of a quoted string. -/
def quote (s : String) : String :=
  String.ofList (quoteChars s.toList)

/-- A new line at a depth of nesting. -/
def newline (depth : Nat) : List Char :=
  '\n' :: List.replicate (2 * depth) ' '

mutual

/-- The indented form of a value that stands at a depth of nesting. -/
def prettyChars (depth : Nat) : Json → List Char
  | arr (x :: xs) =>
    '[' :: (newline (depth + 1) ++ prettyChars (depth + 1) x ++ prettyItems depth xs)
  | obj ((k, v) :: ms) =>
    '\x7b' :: (newline (depth + 1) ++ quoteChars k.toList ++ ':' :: ' ' ::
      (prettyChars (depth + 1) v ++ prettyMembers depth ms))
  | arr [] => ['[', ']']
  | obj [] => ['\x7b', '\x7d']
  | null => chars null
  | bool b => chars (bool b)
  | int n => chars (int n)
  | float x => chars (float x)
  | str s => chars (str s)

def prettyItems (depth : Nat) : List Json → List Char
  | [] => newline depth ++ [']']
  | x :: xs => ',' :: (newline (depth + 1) ++ prettyChars (depth + 1) x ++ prettyItems depth xs)

def prettyMembers (depth : Nat) : List (String × Json) → List Char
  | [] => newline depth ++ ['\x7d']
  | (k, v) :: ms =>
    ',' :: (newline (depth + 1) ++ quoteChars k.toList ++ ':' :: ' ' ::
      (prettyChars (depth + 1) v ++ prettyMembers depth ms))

end

/-- The indented text of a value. -/
def pretty (j : Json) : String :=
  String.ofList (prettyChars 0 j)

end Faultline.Json
