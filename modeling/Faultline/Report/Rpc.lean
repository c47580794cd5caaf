import Faultline.Json.Printer
import Faultline.Key
import Faultline.Trail

/-!
# Calls as a report shows them

A call of an execution with its place in the order of registration, and a finding about it.
-/

namespace Faultline

structure Rpc where
  position : Nat
  trail : Trail
  invocation : Json
  fault : Option Json
  response : Option Json
  cached : Bool

namespace Rpc

/-- A member that is a text, or the empty one. -/
def textOf (name : String) (j : Json) : String :=
  ((j.get? name).bind Json.str?).getD ""

def method (r : Rpc) : String := textOf "method" r.invocation

def module (r : Rpc) : String := textOf "module" r.invocation

def arguments (r : Rpc) : Json := (r.invocation.get? "args").getD .null

def argumentsText (r : Rpc) : String := textOf "toString" r.arguments

/-- What is left of the last key when only metadata and signature are kept. -/
def signature? (r : Rpc) : Option String :=
  r.trail.getLast?.bind fun e => (Key.ofRendered e.1).onlyMetadataAndSignature?

end Rpc

/-- A finding about a call. -/
structure Warning where
  trail : Trail
  name : String
  description : String
  recommendation : String
  impact : String
  details : String
  deriving DecidableEq

namespace Warning

def toJson (w : Warning) : Json :=
  .object [("execution_index", .str w.trail.text), ("name", .str w.name),
    ("description", .str w.description), ("recommendation", .str w.recommendation),
    ("impact", .str w.impact), ("details", .str w.details)]

end Warning

end Faultline
