import Faultline.Fault
import Faultline.Ledger
import Faultline.Text.Fragment
import Faultline.Trail

/-!
# Executions

A plan says which faults to inject where.  An execution is one run of a test: the calls that were
registered, in order, the plan that it carries out, the calls that failed, and the services that
were told that the run is new to them.
-/

namespace Faultline

/-- Faults by the trails of the calls that they hit. -/
abbrev Plan := Ledger Trail Fault

namespace Plan

/-- The same faults at the same trails, in any order. -/
def same (p q : Plan) : Bool :=
  Ledger.agrees Fault.same p q

end Plan

structure Execution where
  /-- The number of registrations, of which the last one has this id. -/
  registrations : Nat
  calls : Ledger Trail Json
  faults : Plan
  failures : Ledger Trail Json
  greeted : List String
  deriving Inhabited

namespace Execution

/-- An execution that carries out a plan, at its start. -/
def ofPlan (p : Plan) : Execution :=
  ⟨0, .empty, p, .empty, []⟩

def empty : Execution := ofPlan .empty

/-- The member of a call's record that is not kept. -/
def recordKind : String := "instrumentation_type"

/-- A call is registered and gets the next id. -/
def register (e : Execution) (t : Trail) (record : Json) : Nat × Execution :=
  (e.registrations + 1,
    { e with
      registrations := e.registrations + 1
      calls := e.calls.put t (record.remove recordKind) })

/-- A call is completed: it failed if the record has an exception, be it `null`. -/
def complete (e : Execution) (t : Trail) (record : Json) : Execution :=
  if (record.get? "exception").isSome then { e with failures := e.failures.put t record } else e

/-- A fault is planned in place of any other for the same call. -/
def plan (e : Execution) (t : Trail) (f : Fault) : Execution :=
  { e with faults := e.faults.put t f }

def fault? (e : Execution) (t : Trail) : Option Fault :=
  e.faults.get? t

def hasGreeted (e : Execution) (service : String) : Bool :=
  e.greeted.contains service

def greet (e : Execution) (service : String) : Execution :=
  if e.hasGreeted service then e else { e with greeted := service :: e.greeted }

/-- The same calls with the same records, and the same faults. -/
def same (e f : Execution) : Bool :=
  Ledger.agrees Json.same e.calls f.calls && e.faults.same f.faults

def isFaulty (e : Execution) : Bool :=
  !e.faults.isEmpty

/-- The text of the arguments in a call's record. -/
def argumentsText? (record : Json) : Option String :=
  (record.path? ["args", "toString"]).bind Json.str?

/-- Whether a fault was planned for a registered call with a property. -/
def hits (e : Execution) (p : Json → Bool) : Bool :=
  e.calls.entries.any fun c => p c.2 && e.faults.contains c.1

/-- Whether a member of a record is a text that contains another. -/
def mentions (name fragment : String) (record : Json) : Bool :=
  match (record.get? name).bind Json.str? with
  | some s => Text.occurs fragment s
  | none => false

def hitsService (e : Execution) (service : String) : Bool :=
  e.hits (mentions "module" service)

def methodText (service method : String) : String :=
  service ++ "/" ++ method

def hitsMethod (e : Execution) (service method : String) : Bool :=
  e.hits (mentions "method" (methodText service method))

/-- A fault on a call of a method whose arguments contain a text. -/
def hitsMethodWith (e : Execution) (service method fragment : String) : Bool :=
  e.hits fun record =>
    mentions "method" (methodText service method) record &&
      match argumentsText? record with
      | some s => Text.occurs fragment s
      | none => false

/-- A fault on a call with exactly these arguments. -/
def hitsRequest (e : Execution) (arguments : String) : Bool :=
  e.hits fun record => argumentsText? record == some arguments

@[simp] theorem fault?_plan (e : Execution) (t t' : Trail) (f : Fault) :
    (e.plan t f).fault? t' = if t' = t then some f else e.fault? t' :=
  Ledger.get?_put e.faults t t' f

@[simp] theorem fault?_register (e : Execution) (t t' : Trail) (record : Json) :
    (e.register t record).2.fault? t' = e.fault? t' := rfl

@[simp] theorem hasGreeted_greet (e : Execution) (service other : String) :
    (e.greet service).hasGreeted other = (other == service || e.hasGreeted other) := by
  unfold greet
  split
  · next h =>
    by_cases ho : other = service
    · subst ho; simp [h]
    · simp [ho]
  · by_cases ho : other = service <;> simp [hasGreeted, ho]

end Execution

end Faultline
