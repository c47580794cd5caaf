import Faultline.Pattern.Property.Break

/-!
# Named character classes

The sets of characters that a pattern asks for by name: those of a letter behind a backslash, those
of ASCII with a name between colons, and those of a property, a category or a script.
-/

namespace Faultline.Pattern.CharClass

def decimal (unicode : Bool) : CharSet :=
  if unicode then Property.category "nd" else .range '0' '9'

def blank (unicode : Bool) : CharSet :=
  if unicode then Property.blank else ⟨[(0x9, 0xD), (0x20, 0x20)]⟩

def word (unicode : Bool) : CharSet :=
  if unicode then Property.word
  else ⟨[(0x30, 0x39), (0x41, 0x5A), (0x5F, 0x5F), (0x61, 0x7A)]⟩

/-- The classes of ASCII characters that have a name between colons. -/
def ascii? (name : String) : Option CharSet :=
  match name with
  | "alnum" => some ⟨[(0x30, 0x39), (0x41, 0x5A), (0x61, 0x7A)]⟩
  | "alpha" => some ⟨[(0x41, 0x5A), (0x61, 0x7A)]⟩
  | "ascii" => some .ascii
  | "blank" => some ⟨[(0x9, 0x9), (0x20, 0x20)]⟩
  | "cntrl" => some ⟨[(0, 0x1F), (0x7F, 0x7F)]⟩
  | "digit" => some (decimal false)
  | "graph" => some ⟨[(0x21, 0x7E)]⟩
  | "lower" => some (.range 'a' 'z')
  | "print" => some ⟨[(0x20, 0x7E)]⟩
  | "punct" => some ⟨[(0x21, 0x2F), (0x3A, 0x40), (0x5B, 0x60), (0x7B, 0x7E)]⟩
  | "space" => some (blank false)
  | "upper" => some (.range 'A' 'Z')
  | "word" => some (word false)
  | "xdigit" => some ⟨[(0x30, 0x39), (0x41, 0x46), (0x61, 0x66)]⟩
  | _ => none

/-- A name without case, blanks, dashes, underscores and the word `is` in front.  The one letter
behind that word is not a name of its own. -/
def looseName (cs : List Char) : String :=
  let (isFront, cs) := match cs with
    | i :: s :: r =>
      if (i == 'i' || i == 'I') && (s == 's' || s == 'S') then (true, r) else (false, cs)
    | _ => (false, cs)
  let kept := cs.filter fun c => c.toNat < 0x80 && !(c == ' ' || c == '_' || c == '-')
  let kept := kept.map Char.toLower
  String.ofList (if isFront && kept == ['c'] then ['i', 's', 'c'] else kept)

/-- The class of a property, a category or a script.  Three short names of categories are kept
free of the properties with the same name. -/
def property? (cs : List Char) : Option CharSet :=
  let name := looseName cs
  let binary := if ["cf", "sc", "lc"].contains name then none else Property.binary? name
  (binary.orElse fun _ => Property.category? name).orElse fun _ => Property.script? name

/-- The class of a property with a value. -/
def propertyValue? (property value : List Char) : Option CharSet :=
  let value := looseName value
  match looseName property with
  | "age" => Property.age? value
  | "gc" | "generalcategory" => Property.category? value
  | "gcb" | "graphemeclusterbreak" => Property.graphemeBreak? value
  | "sb" | "sentencebreak" => Property.sentenceBreak? value
  | "sc" | "script" => Property.script? value
  | "scx" | "scriptextensions" => Property.scriptUse? value
  | "wb" | "wordbreak" => Property.wordBreak? value
  | _ => none

end Faultline.Pattern.CharClass
