import Faultline.Json.Document

/-!
# Records

Typed reading of JSON.  A record is written with its fields by name, or as the list of its fields
in their order; fields nobody asks for are passed over by name and refused in a list.  A field is
required, or has a default when it is missing, or is optional: then it may be `null`, and missing
only where fields have names.
-/

namespace Faultline

/-- The fields of a record as they are written. -/
inductive Record (α : Type) where
  | named (members : List (String × α))
  | listed (items : List α)

namespace Record

variable {α β : Type}

/-- What is written for the field of this name and position. -/
def get? (r : Record α) (name : String) (position : Nat) : Option α :=
  match r with
  | named members => Entries.find? name members
  | listed items => items[position]?

def required (r : Record α) (name : String) (position : Nat) (read : α → Option β) : Option β :=
  (r.get? name position).bind read

def defaulted (r : Record α) (name : String) (position : Nat) (read : α → Option β)
    (default : β) : Option β :=
  match r.get? name position with
  | some d => read d
  | none => some default

/-- An optional field, read by a reader that accepts `null`. -/
def optional (r : Record α) (name : String) (position : Nat)
    (read : α → Option (Option β)) : Option (Option β) :=
  match r, r.get? name position with
  | _, some d => read d
  | named _, none => some none
  | listed _, none => none

/-- The record of a value; a list may not be longer than the fields. -/
def ofJson? (size : Nat) : Json → Option (Record Json)
  | .obj members => some (named members)
  | .arr items => if items.length ≤ size then some (listed items) else none
  | _ => none

end Record

namespace Json

variable {α : Type}

/-- `null`, or a value. -/
def nullable (read : Json → Option α) : Json → Option (Option α)
  | null => some none
  | j => (read j).map some

/-- A list of values. -/
def list? (read : Json → Option α) : Json → Option (List α)
  | arr items => items.mapM read
  | _ => none

/-- One of a choice of words, as a text or as an object with the word and `null`. -/
def word? : Json → Option String
  | str s => some s
  | obj [(name, null)] => some name
  | _ => none

end Json

namespace Document

variable {α : Type}

/-- How often a name occurs. -/
def occurrences (name : String) (members : List (String × Document)) : Nat :=
  members.countP fun m => m.1 == name

/-- A legible name with its document. -/
def nameOf? (m : Option String × Document) : Option (String × Document) :=
  m.1.map (·, m.2)

/-- The record of a document with the given fields, none of which may come twice. -/
def record? (fields : List String) : Document → Option (Record Document)
  | obj members => do
    let named ← members.mapM nameOf?
    if fields.all fun f => occurrences f named ≤ 1 then some (.named named) else none
  | arr items => if items.length ≤ fields.length then some (.listed items) else none
  | _ => none

def str? : Document → Option String
  | str s => s
  | _ => none

def bool? : Document → Option Bool
  | bool b => some b
  | _ => none

def whole? : Document → Option Whole
  | number (some (.int n)) => some n
  | _ => none

/-- A whole number below a bound. -/
def nat? (bound : Nat) (d : Document) : Option Nat := do
  let n ← d.whole?
  if 0 ≤ n.val ∧ n.val < bound then some n.val.toNat else none

def uint64? (d : Document) : Option UInt64 := do (← d.whole?).toUInt64?

/-- `null`, or a value. -/
def nullable (read : Document → Option α) : Document → Option (Option α)
  | null => some none
  | d => (read d).map some

/-- A legible name with a legible value. -/
def member? (read : Document → Option α) (m : Option String × Document) :
    Option (String × α) := do
  return (← m.1, ← read m.2)

/-- A finite map with legible names and values; the last value of a name counts. -/
def map? (read : Document → Option α) : Document → Option (List (String × α))
  | obj members => (members.mapM (member? read)).map Entries.ofPairs
  | _ => none

end Document

end Faultline
