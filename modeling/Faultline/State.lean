import Faultline.Clock
import Faultline.Index

/-!
# Per-request state

A clock and an execution index for each pair of a service and a request id.  An entry comes into
being when it is first touched; a service's entries, or all of them, are cleared together.  The
lemmas state that an operation on one pair shows at no other pair.
-/

namespace Faultline

/-- Values by service and request id. -/
abbrev PerRequest (α : Type) := Table (Table α)

namespace PerRequest

variable {α : Type}

/-- The service's entries, by request id. -/
def ofService (m : PerRequest α) (service : String) : Table α :=
  (Table.get? m service).getD Table.empty

def find? (m : PerRequest α) (service request : String) : Option α :=
  (ofService m service).get? request

/-- The pair's entry becomes the given one, or disappears. -/
def assign (m : PerRequest α) (service request : String) (v : Option α) : PerRequest α :=
  Table.insert m service ((ofService m service).set request v)

@[simp] theorem find?_assign (m : PerRequest α) (s r s' r' : String) (v : Option α) :
    find? (assign m s r v) s' r' = if s' = s ∧ r' = r then v else find? m s' r' := by
  unfold find? assign ofService
  by_cases hs : s' = s
  · subst hs; by_cases hr : r' = r <;> simp [hr]
  · simp [hs]

@[simp] theorem find?_erase (m : PerRequest α) (s s' r' : String) :
    find? (Table.erase m s) s' r' = if s' = s then none else find? m s' r' := by
  unfold find? ofService
  by_cases hs : s' = s <;> simp [hs]

end PerRequest

/-- The clocks and execution indexes of the requests in progress. -/
structure State where
  clocks : PerRequest Clock
  indexes : PerRequest Index
  deriving Inhabited

namespace State

def empty : State := ⟨Table.empty, Table.empty⟩

def clock? (s : State) (service request : String) : Option Clock :=
  PerRequest.find? s.clocks service request

def index? (s : State) (service request : String) : Option Index :=
  PerRequest.find? s.indexes service request

/-- The pair's clock is replaced by a function of it; a missing clock is the empty one. -/
def updateClock {α : Type} (s : State) (service request : String) (f : Clock → α × Clock) :
    α × State :=
  let (a, c) := f ((s.clock? service request).getD .empty)
  (a, { s with clocks := PerRequest.assign s.clocks service request (some c) })

/-- The pair's index is replaced by a function of it; a missing index is the empty one. -/
def updateIndex {α : Type} (s : State) (service request : String) (f : Index → α × Index) :
    α × State :=
  let (a, i) := f ((s.index? service request).getD .empty)
  (a, { s with indexes := PerRequest.assign s.indexes service request (some i) })

/-- The pair's index, present or not, is replaced by a function of it. -/
def updateSlot {α : Type} (s : State) (service request : String)
    (f : Option Index → α × Option Index) : α × State :=
  let (a, i) := f (s.index? service request)
  (a, { s with indexes := PerRequest.assign s.indexes service request i })

def clearService (s : State) (service : String) : State :=
  ⟨Table.erase s.clocks service, Table.erase s.indexes service⟩

def clearAll (_ : State) : State := empty

/-- An operation on one pair's clock shows at no other pair. -/
theorem clock?_updateClock {α : Type} (s : State) (sv rq sv' rq' : String)
    (f : Clock → α × Clock) :
    (s.updateClock sv rq f).2.clock? sv' rq' =
      if sv' = sv ∧ rq' = rq then some (f ((s.clock? sv rq).getD .empty)).2
      else s.clock? sv' rq' :=
  PerRequest.find?_assign s.clocks sv rq sv' rq' _

/-- An operation on one pair's index shows at no other pair. -/
theorem index?_updateIndex {α : Type} (s : State) (sv rq sv' rq' : String)
    (f : Index → α × Index) :
    (s.updateIndex sv rq f).2.index? sv' rq' =
      if sv' = sv ∧ rq' = rq then some (f ((s.index? sv rq).getD .empty)).2
      else s.index? sv' rq' :=
  PerRequest.find?_assign s.indexes sv rq sv' rq' _

theorem index?_updateSlot {α : Type} (s : State) (sv rq sv' rq' : String)
    (f : Option Index → α × Option Index) :
    (s.updateSlot sv rq f).2.index? sv' rq' =
      if sv' = sv ∧ rq' = rq then (f (s.index? sv rq)).2 else s.index? sv' rq' :=
  PerRequest.find?_assign s.indexes sv rq sv' rq' _

end State

end Faultline
