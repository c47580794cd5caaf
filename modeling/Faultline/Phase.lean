/-!
# Phases of a call

The life of one instrumented outbound call.  It is prepared, then registered, then completed in
one of four ways; a completed phase has no successor, so exactly one outcome is reported.
-/

namespace Faultline

inductive Phase where
  | created
  | prepared
  | beforeInvoked
  | completedOk
  | completedException
  | completedByzantine
  | completedTransformed
  deriving DecidableEq, Repr, Inhabited

namespace Phase

def all : List Phase :=
  [created, prepared, beforeInvoked, completedOk, completedException, completedByzantine,
    completedTransformed]

def name : Phase → String
  | created => "Created"
  | prepared => "Prepared"
  | beforeInvoked => "BeforeInvoked"
  | completedOk => "CompletedOk"
  | completedException => "CompletedException"
  | completedByzantine => "CompletedByzantine"
  | completedTransformed => "CompletedTransformed"

def ofName? (s : String) : Option Phase :=
  all.find? fun p => p.name == s

/-- The phases that may come next. -/
def successors : Phase → List Phase
  | created => [prepared]
  | prepared => [beforeInvoked]
  | beforeInvoked => [completedOk, completedException, completedByzantine, completedTransformed]
  | _ => []

def canBecome (p q : Phase) : Bool :=
  p.successors.contains q

def isTerminal : Phase → Bool
  | completedOk | completedException | completedByzantine | completedTransformed => true
  | _ => false

theorem ofName?_name (p : Phase) : ofName? p.name = some p := by cases p <;> decide

/-- The terminal phases are those without a successor. -/
theorem isTerminal_iff (p : Phase) : p.isTerminal = true ↔ p.successors = [] := by
  cases p <;> decide

/-- How far a phase is from the start; every step goes one further. -/
def rank : Phase → Nat
  | created => 0
  | prepared => 1
  | beforeInvoked => 2
  | _ => 3

theorem rank_of_canBecome {p q : Phase} (h : p.canBecome q = true) : q.rank = p.rank + 1 := by
  revert h; cases p <;> cases q <;> decide

end Phase

end Faultline
