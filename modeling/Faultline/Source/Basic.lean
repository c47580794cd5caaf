import Faultline.Explorer
import Faultline.Violation

/-!
# Decision sources

Who decides about calls: a source answers three questions, each with an answer or an error, and
may keep a state of its own.  A question may also break off with a violation, which leaves the
source as it was.  The explorer is a source; it can also be asked through a place where one may be
installed.  `recorded` is any source together with the questions that it was asked.
-/

namespace Faultline

/-- What a source makes of a question. -/
abbrev Reply (σ α : Type) := Except Violation (Except Error α × σ)

/-- A question to a source. -/
inductive Question where
  /-- Whether the execution is new to a service. -/
  | isNew (service : String)
  /-- The registration of a call. -/
  | register (record : Json)
  /-- What became of a call; `update` tells a change on its way from the rest. -/
  | report (record : Json) (update : Bool)

namespace Question

def toJson : Question → Json
  | isNew service => .arr [.str "new", .str service]
  | register record => .arr [.str "create", record]
  | report record update => .arr [.str "update", record, .bool update]

end Question

structure Source (σ : Type) where
  name : String
  isNew : String → σ → Reply σ Bool
  register : Json → σ → Reply σ Decision
  report : Json → Bool → σ → Reply σ Receipt

namespace Source

variable {σ : Type}

/-- An operation of an explorer as a reply; an error leaves the explorer as it was. -/
def replyOf {α : Type} (x : Explorer) : Except Error (α × Explorer) → Reply Explorer α
  | .ok (a, x') => .ok (.ok a, x')
  | .error e => .ok (.error e, x)

/-- An explorer that decides in process. -/
def explorer : Source Explorer where
  name := "core"
  isNew service x := replyOf x (.ok (x.greet service))
  register record x := replyOf x (x.register record)
  report record _ x := replyOf x (x.complete record)

/-- A question to what is installed, which must be something. -/
def whenInstalled {α : Type} (ask : σ → Reply σ α) : Option σ → Reply (Option σ) α
  | some s =>
    match ask s with
    | .ok (r, s) => .ok (r, some s)
    | .error v => .error v
  | none => .error .noCore

/-- A source that is looked up whenever it is asked. -/
def installed (s : Source σ) : Source (Option σ) where
  name := s.name
  isNew service := whenInstalled (s.isNew service)
  register record := whenInstalled (s.register record)
  report record update := whenInstalled (s.report record update)

/-- A question with a note of it. -/
def noting {α : Type} (q : Question) (ask : σ → Reply σ α) (s : σ × List Question) :
    Reply (σ × List Question) α :=
  match ask s.1 with
  | .ok (r, s') => .ok (r, (s', s.2 ++ [q]))
  | .error v => .error v

/-- A source with the questions that it answered, in order. -/
def recorded (s : Source σ) : Source (σ × List Question) where
  name := s.name
  isNew service := noting (.isNew service) (s.isNew service)
  register record := noting (.register record) (s.register record)
  report record update := noting (.report record update) (s.report record update)

end Source

end Faultline
