import Faultline.Json.Printer
import Faultline.Json.Record
import Faultline.Pattern.Property

/-!
# Callsites

One instrumented call: which service calls what, with which arguments, from where.  Arguments
enter a call's name only as a label for their type and the compact text of their value, which
lists the members of objects in key order and so does not depend on how the value was built.
-/

namespace Faultline

/-- The arguments of a call: a label for their type and their text. -/
structure Arguments where
  label : String
  text : String
  deriving DecidableEq, Inhabited

namespace Arguments

/-- The arguments of a call without any. -/
def empty : Arguments := ⟨"", ""⟩

def ofValue (label : String) (value : Json) : Arguments :=
  ⟨label, value.compact⟩

/-- A letter or a digit of any script. -/
def isAlphanumeric (c : Char) : Bool :=
  if c.toNat < 0x80 then c.isAlphanum else Pattern.Property.alphanumeric.contains c.toNat

/-- The characters of qualified names: letters, digits, underscores and colons. -/
def isPathChar (c : Char) : Bool :=
  isAlphanumeric c || c == '_' || c == ':'

/-- The end of a reversed qualified name, up to its last double colon. -/
def lastSegment : List Char → List Char → List Char
  | acc, [] => acc
  | acc, ':' :: ':' :: _ => acc
  | acc, c :: r => lastSegment (c :: acc) r

/-- A type name without the qualifiers of the names in it. -/
def shortLabelFrom (path : List Char) : List Char → List Char
  | [] => lastSegment [] path
  | c :: r =>
    if isPathChar c then shortLabelFrom (c :: path) r
    else lastSegment [] path ++ c :: shortLabelFrom [] r

def shortLabel (qualified : String) : String :=
  String.ofList (shortLabelFrom [] qualified.toList)

/-- The arguments of a value with a type known by its qualified name. -/
def ofTyped (qualified : String) (value : Json) : Arguments :=
  ofValue (shortLabel qualified) value

def withLabel (a : Arguments) (label : String) : Arguments :=
  { a with label }

def toJson (a : Arguments) : Json :=
  .object [("class", .str a.label), ("toString", .str a.text)]

def ofJson? (j : Json) : Option Arguments := do
  let r ← Record.ofJson? 2 j
  return ⟨← r.required "class" 0 Json.str?, ← r.required "toString" 1 Json.str?⟩

end Arguments

/-- One instrumented call. -/
structure Callsite where
  service : String
  module : String
  method : String
  arguments : Arguments
  file : String
  line : UInt32
  metadata : String
  deriving DecidableEq, Inhabited

end Faultline
