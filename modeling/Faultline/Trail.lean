import Faultline.Json.Parser
import Faultline.Json.Printer
import Faultline.Text.Blank

/-!
# Trails

The keys of the calls that led to a remote call, outermost first, each with the number of its
occurrence.  A trail is the name under which faults are decided and replayed: it is what an
execution index shows, and two indexes are the same call exactly when their trails are equal.  Its
text is a list of pairs; blank text stands for the empty trail.
-/

namespace Faultline

/-- Keys with the numbers of their occurrences, outermost first. -/
abbrev Trail := List (String × UInt64)

namespace Trail

def empty : Trail := []

/-- A key and its count between brackets. -/
def entryText (e : String × UInt64) : String :=
  "[" ++ Json.quote e.1 ++ ", " ++ Nat.repr e.2.toNat ++ "]"

def text (t : Trail) : String :=
  "[" ++ String.intercalate ", " (t.map entryText) ++ "]"

/-- A key and its count. -/
def entryOfJson? : Json → Option (String × UInt64)
  | .arr [.str key, n] => n.uint64?.map (key, ·)
  | _ => none

def ofJson? : Json → Option Trail
  | .arr items => items.mapM entryOfJson?
  | _ => none

/-- The trail that a text is. -/
def parse? (s : String) : Option Trail :=
  if Text.trim s = "" then some empty else (Json.parse? s).bind ofJson?

end Trail

end Faultline
