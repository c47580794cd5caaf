import Faultline.Fault
import Faultline.Pattern.Parser

/-!
# Analyses

Which faults to try on which calls.  A rule applies to the methods that contain a match of its
pattern and lists, in this order, exceptions, errors by service and transformers; the errors of a
service apply to the modules that contain a match of its name, read as a pattern.  The candidates
of a call are those of all rules, in the order of the rules' names.
-/

namespace Faultline

/-- What to try on the modules with a match of a pattern. -/
structure ErrorRule where
  modules : Pattern Pattern.Atom
  faults : List Fault

structure Rule where
  name : String
  methods : Pattern Pattern.Atom
  exceptions : List ForcedException
  errors : List ErrorRule
  transformers : List TransformerKind

/-- Rules in the order of their names. -/
structure Analysis where
  rules : List Rule

namespace ErrorRule

/-- A service with the types of its errors, as they are written. -/
structure Written where
  service : String
  types : List Json

def Written.ofJson? (j : Json) : Option Written := do
  let r ← Record.ofJson? 2 j
  return ⟨← r.required "service_name" 0 Json.str?, ← r.defaulted "types" 1 (Json.list? some) []⟩

/-- A type that is no fault is the metadata of a failure. -/
def faultOfType (j : Json) : Except Error Fault := do
  return (← Fault.ofObject j).getD (.failure j)

def pattern (t : String) : Except Error (Pattern Pattern.Atom) :=
  match Pattern.parse? t with
  | some p => .ok p
  | none => .error (.analysis (.badPattern t))

def ofWritten (w : Written) : Except Error ErrorRule := do
  let faults ← w.types.mapM faultOfType
  return ⟨← pattern w.service, faults⟩

/-- The faults for a module. -/
def candidates (e : ErrorRule) (module : String) : List Fault :=
  if e.modules.occursIn module then e.faults else []

end ErrorRule

namespace Rule

/-- A rule as it is written. -/
structure Written where
  pattern : Option String
  exceptions : List ForcedException
  errors : List ErrorRule.Written
  transformers : List TransformerKind

/-- The kind of a transformer, in a record of its own. -/
def transformerOfJson? (j : Json) : Option TransformerKind := do
  (← Record.ofJson? 1 j).required "type" 0 TransformerKind.ofJson?

def Written.ofJson? (j : Json) : Option Written := do
  let r ← Record.ofJson? 4 j
  return {
    pattern := ← r.optional "pattern" 0 (Json.nullable Json.str?)
    exceptions := ← r.defaulted "exceptions" 1 (Json.list? ForcedException.ofJson?) []
    errors := ← r.defaulted "errors" 2 (Json.list? ErrorRule.Written.ofJson?) []
    transformers := ← r.defaulted "transformers" 3 (Json.list? transformerOfJson?) [] }

/-- A rule without a pattern applies to every method. -/
def anyMethod : String := ".*"

def ofJson (name : String) (j : Json) : Except Error Rule := do
  let some w := Written.ofJson? j | throw (.analysis (.badRule name))
  let errors ← w.errors.mapM ErrorRule.ofWritten
  let methods ← ErrorRule.pattern (w.pattern.getD anyMethod)
  return ⟨name, methods, w.exceptions, errors, w.transformers⟩

def appliesTo (r : Rule) (method : String) : Bool :=
  r.methods.occursIn method

/-- The faults to try on a call. -/
def candidates (r : Rule) (module method : String) : List Fault :=
  if r.appliesTo method then
    r.exceptions.map .exception ++ r.errors.flatMap (·.candidates module) ++
      r.transformers.map .ofTransformer
  else []

end Rule

namespace Analysis

def empty : Analysis := ⟨[]⟩

instance : Inhabited Analysis := ⟨empty⟩

/-- The rules of an object, whose members are rules by name. -/
def ofJson (j : Json) : Except Error Analysis := do
  let some members := j.obj? | throw (.analysis .notAnObject)
  return ⟨← members.mapM fun m => Rule.ofJson m.1 m.2⟩

/-- The faults to try on a call. -/
def candidates (a : Analysis) (module method : String) : List Fault :=
  a.rules.flatMap (·.candidates module method)

end Analysis

end Faultline
