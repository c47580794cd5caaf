import Faultline.Fault
import Faultline.Violation

/-!
# Injected exceptions

The exception that an application sees for a forced one: with a cause, or with a code and perhaps
a description.  A forced exception with neither code nor cause cannot be raised.
-/

namespace Faultline

structure Injection where
  name : String
  code : String
  description : Option String
  cause : Option String
  causeMessage : Option String
  sleepMs : Option UInt64
  deriving DecidableEq, Inhabited

namespace Injection

def defaultCauseMessage : String := "Filibuster generated exception."

/-- A detail that is a text and not the empty one. -/
def nonEmpty? (e : ForcedException) (key : String) : Option String :=
  (e.text? key).filter fun s => s != ""

def ofForced (e : ForcedException) : Except Violation Injection :=
  let code := (e.text? "code").getD ""
  let cause := nonEmpty? e "cause"
  if cause.isNone && code == "" then .error (.noCause e.name)
  else .ok ⟨e.name, code, e.text? "description", cause, nonEmpty? e "cause_message", e.sleepMs?⟩

def raisesCause (i : Injection) : Bool :=
  i.cause.isSome

def causeMessageOrDefault (i : Injection) : String :=
  i.causeMessage.getD defaultCauseMessage

def display (i : Injection) : String :=
  match i.cause, i.description with
  | some cause, _ => i.name ++ ": " ++ cause ++ ": " ++ i.causeMessageOrDefault
  | none, some description => i.name ++ " " ++ i.code ++ ": " ++ description
  | none, none => i.name ++ " " ++ i.code

def toJson (i : Injection) : Json :=
  .object [("name", .str i.name), ("code", .str i.code),
    ("description", .ofOption .str i.description), ("cause", .ofOption .str i.cause),
    ("cause_message", .ofOption .str i.causeMessage),
    ("sleep_ms", .ofOption .ofUInt64 i.sleepMs)]

end Injection

end Faultline
