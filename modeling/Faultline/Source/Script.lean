import Faultline.Source.Basic

/-!
# Scripted sources

A source that answers from a script: one list of answers for each question, of which the last is
given again and again.
-/

namespace Faultline

/-- A prepared answer: an error, or a value to be read as the question needs it. -/
inductive Answer where
  | failure (e : Error)
  | value (j : Json)

structure Script where
  isNew : List Answer
  register : List Answer
  report : List Answer
  /-- How many calls were registered. -/
  registrations : Nat

namespace Script

/-- The answer ahead, and the answers to go on with. -/
def next : List Answer → Option (Answer × List Answer)
  | [] => none
  | [a] => some (a, [a])
  | a :: as => some (a, as)

/-- An answer that is read, or what is said without one. -/
def answer {α : Type} (read : Json → Except Error α) (dflt : α) (as : List Answer) :
    Except Error α × List Answer :=
  match next as with
  | none => (.ok dflt, [])
  | some (.failure e, as) => (.error e, as)
  | some (.value j, as) => (read j, as)

def readReceipt (j : Json) : Except Error Receipt :=
  match Receipt.ofJson? j with
  | some r => .ok r
  | none => .error (.serialization "")

end Script

namespace Source

/-- Without answers no execution is new, ids count the registrations, and nothing is renamed. -/
def scripted : Source Script where
  name := "scripted"
  isNew _ s :=
    let (r, as) := Script.answer (fun j => .ok (j.bool?.getD false)) false s.isNew
    .ok (r, { s with isNew := as })
  register _ s :=
    let n := s.registrations + 1
    let (r, as) := Script.answer Decision.ofJson ⟨Int64.ofNat n, none⟩ s.register
    .ok (r, { s with register := as, registrations := n })
  report _ _ s :=
    let (r, as) := Script.answer Script.readReceipt ⟨none⟩ s.report
    .ok (r, { s with report := as })

end Source

end Faultline
