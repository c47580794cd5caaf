import Faultline.Counterexample
import Faultline.Registry
import Faultline.Source.Basic
import Faultline.State

/-!
# Harnesses

What the instrumented calls of one test share: the configuration, who decides, the counterexample
that is replayed, the transformers, and a world of per-request state and the state of the source.
While a counterexample is replayed, or when communication is off, nobody is asked.
-/

namespace Faultline

structure Harness (σ : Type) where
  config : Config
  source : Source σ
  counterexample : Option Counterexample
  registry : Registry

/-- What changes while calls are made. -/
structure World (σ : Type) where
  state : State
  source : σ
  deriving Inhabited

namespace Harness

variable {σ : Type}

/-- The counterexample in the file that the configuration names. -/
def loadCounterexample (files : String → Option String) (c : Config) :
    Except Error (Option Counterexample) :=
  match c.counterexampleFile with
  | none => .ok none
  | some path =>
    match files path with
    | some text => (Counterexample.parse text).map some
    | none => .error (.counterexample .unreadable)

/-- A harness over a source; `files` are the texts of the files that can be read. -/
def make (files : String → Option String) (config : Config) (registry : Registry)
    (source : Source σ) : Except Error (Harness σ) := do
  return ⟨config, source, ← loadCounterexample files config, registry⟩

/-- Whether the source is asked. -/
def consults (h : Harness σ) : Bool :=
  h.config.communicationEnabled && h.counterexample.isNone

theorem consults_eq_false_of_counterexample {h : Harness σ} {c : Counterexample}
    (hc : h.counterexample = some c) : h.consults = false := by
  simp [consults, hc]

/-- All per-request state is forgotten at the end of a test. -/
def teardown (w : World σ) : World σ :=
  { w with state := w.state.clearAll }

end Harness

end Faultline
