import Faultline.Phase

/-!
# Broken contracts

What goes wrong when a caller breaks the contract of an operation: operations are called in the
wrong order, a counter is full, or a decided fault cannot be raised.  These end the operation at
once, unlike the errors of `Error`, which callers are expected to handle.
-/

namespace Faultline

inductive Violation where
  /-- An index without entries was popped. -/
  | emptyPop
  /-- A counter at its largest value was raised. -/
  | overflow
  /-- A mutation was asked for before there was one. -/
  | noResult
  /-- A continuation was asked for before there was a mutation. -/
  | noContinuation
  | invalidTransition (source target : Phase)
  /-- The callsite was replaced at the wrong time. -/
  | lateCallsite
  /-- A decided exception has neither a code nor a cause. -/
  | noCause (exception : String)
  /-- No core is installed that could decide. -/
  | noCore
  deriving DecidableEq, Repr

namespace Violation

def message : Violation → String
  | emptyPop => "pop() called on an empty distributed execution index"
  | overflow => "attempt to add with overflow"
  | noResult => "result() called before transform()"
  | noContinuation => "next_accumulator() called before transform()"
  | invalidTransition source target =>
    "invalid client instrumentor transition " ++ source.name ++ " -> " ++ target.name
  | lateCallsite => "update_callsite() must follow prepare_for_invocation()"
  | noCause exception => "No code or cause provided for injection of " ++ exception
  | noCore => "No current fault core instance; install one before instrumenting calls"

end Violation

end Faultline
