import Faultline.Callsite
import Faultline.Digest

/-!
# Keys

The name of a callsite: a version tag and five components joined by dashes.  A component is the
digest of its text, or the text itself in square brackets.  The projections read the components
back from a rendered key: a digest ends at the next dash, a bracketed text at the next bracket
with a dash behind it.
-/

namespace Faultline

/-- Which components of a key are digested. -/
structure Digesting where
  metadata : Bool := true
  source : Bool := true
  signature : Bool := true
  synchronous : Bool := true
  asynchronous : Bool := true
  deriving DecidableEq, Inhabited

namespace Digesting

/-- Every component as it stands. -/
def raw : Digesting := ⟨false, false, false, false, false⟩

def toJson (d : Digesting) : Json :=
  .object [("metadata", .bool d.metadata), ("source", .bool d.source),
    ("signature", .bool d.signature), ("synchronous", .bool d.synchronous),
    ("asynchronous", .bool d.asynchronous)]

/-- A component that is not mentioned is digested. -/
def ofDocument? (d : Document) : Option Digesting := do
  let r ← d.record? ["metadata", "source", "signature", "synchronous", "asynchronous"]
  let part (name : String) (i : Nat) : Option Bool := r.defaulted name i Document.bool? true
  return ⟨← part "metadata" 0, ← part "source" 1, ← part "signature" 2, ← part "synchronous" 3,
    ← part "asynchronous" 4⟩

end Digesting

/-- The name of a callsite, with the destination of the call where it is known. -/
structure Key where
  rendered : String
  destination : Option String
  deriving Inhabited

namespace Key

def version : String := "V1"

/-- A component of a key. -/
def component (text : String) (digested : Bool) : String :=
  if digested then Digest.ofText text else "[" ++ text ++ "]"

/-- What is called. -/
def signature (c : Callsite) : String :=
  c.module ++ "," ++ c.method ++ ",[]"

/-- Where the call stands. -/
def location (c : Callsite) : String :=
  c.file ++ "," ++ Nat.repr c.line.toNat

/-- What the call is given. -/
def given (c : Callsite) : String :=
  c.arguments.label ++ "," ++ c.arguments.text

/-- The components of a callsite's key, in order. -/
def componentsOf (c : Callsite) (d : Digesting) : List String :=
  [component c.metadata d.metadata, component c.service d.source,
    component (signature c) d.signature, component (location c) d.synchronous,
    component (given c) d.asynchronous]

def ofCallsite (c : Callsite) (d : Digesting) : Key :=
  ⟨String.intercalate "-" (version :: componentsOf c d), some c.module⟩

def ofRendered (rendered : String) : Key := ⟨rendered, none⟩

/-- The characters before the first dash, and those behind it. -/
def cutAtDash : List Char → Option (List Char × List Char)
  | [] => none
  | '-' :: r => some ([], r)
  | c :: r => (cutAtDash r).map fun (a, b) => (c :: a, b)

/-- The characters up to the first closing bracket with a dash behind it, and those behind the
dash. -/
def cutAtBracket : List Char → Option (List Char × List Char)
  | [] => none
  | ']' :: '-' :: r => some ([']'], r)
  | c :: r => (cutAtBracket r).map fun (a, b) => (c :: a, b)

/-- The first component, and the characters behind the dash that ends it. -/
def cutComponent : List Char → Option (List Char × List Char)
  | '[' :: r => cutAtBracket ('[' :: r)
  | cs => cutAtDash cs

/-- The last component: a bracketed text has to close. -/
def lastComponent : List Char → Option (List Char)
  | '[' :: r => if ('[' :: r).getLast? = some ']' then some ('[' :: r) else none
  | cs => some cs

/-- The first `n` components with the last one behind them. -/
def cutComponents : Nat → List Char → Option (List (List Char))
  | 0, cs => (lastComponent cs).map ([·])
  | n + 1, cs => do
    let (c, r) ← cutComponent cs
    return c :: (← cutComponents n r)

/-- The five components of a rendered key, unless it has another form. -/
def components? (k : Key) : Option (List String) :=
  match k.rendered.toList with
  | 'V' :: '1' :: '-' :: r => (cutComponents 4 r).map (·.map String.ofList)
  | _ => none

def onlyMetadata? (k : Key) : Option String :=
  k.components?.bind (·[0]?)

def onlySignature? (k : Key) : Option String :=
  k.components?.bind (·[2]?)

/-- The components for metadata and signature, joined by a dash. -/
def onlyMetadataAndSignature? (k : Key) : Option String := do
  return (← k.onlyMetadata?) ++ "-" ++ (← k.onlySignature?)

end Key

end Faultline
