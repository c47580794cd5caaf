import Faultline.Proofs.Traffic.Agreement
import Faultline.Proofs.Traffic.Silence

/-!
# Names and clocks across executions

The same calls in two executions get the same indexes and clocks, whatever earlier executions left
in the state: a service starts over with its first call in an execution, and nothing of a service
is read before.  Two runs agree where a service was greeted (`Apace`).  Under a harness that asks
nobody no service starts over, and its calls go on with what was left.
-/

namespace Faultline

namespace Traffic

open State

/-- The same services were greeted, and the worlds agree at them. -/
structure Apace (w w' : World Explorer) : Prop where
  running : w.source.isRunning = true
  running' : w'.source.isRunning = true
  greets : ∀ service, w'.source.greets service = w.source.greets service
  same : ∀ service, w.source.greets service = true → SameAt service w.state w'.state

variable {h : Harness Explorer} {w w' : World Explorer}

theorem apace_of_atStart (hw : w.source.AtStart) (hw' : w'.source.AtStart) : Apace w w' := by
  refine ⟨hw.isRunning, hw'.isRunning, ?_, ?_⟩
  · intro service
    rw [hw.greets, hw'.greets]
  · intro service hgreets
    rw [hw.greets] at hgreets
    exact absurd hgreets Bool.false_ne_true

/-- The first call of a service greets it, and the service starts over in both worlds. -/
theorem sameAt_startOver (hw : Apace w w') (service : String) :
    SameAt service (w.state.startOver (w.source.greet service).1 service)
      (w'.state.startOver (w'.source.greet service).1 service) := by
  rw [Explorer.greet_fst hw.running, Explorer.greet_fst hw.running', hw.greets]
  cases hgreets : w.source.greets service with
  | true => exact hw.same service hgreets
  | false => exact (lacks_clearService w.state service).sameAt (lacks_clearService w'.state service)

theorem apace_greet (hw : Apace w w') {service : String} {s s' : State}
    (hbut : SameBut service w.state s) (hbut' : SameBut service w'.state s')
    (hsame : SameAt service s s') :
    Apace ⟨s, (w.source.greet service).2⟩ ⟨s', (w'.source.greet service).2⟩ := by
  refine ⟨?_, ?_, ?_, ?_⟩
  · exact (Explorer.isRunning_greet w.source service).trans hw.running
  · exact (Explorer.isRunning_greet w'.source service).trans hw.running'
  · intro other
    rw [Explorer.greets_greet hw.running, Explorer.greets_greet hw.running', hw.greets]
  · intro other hother
    rw [Explorer.greets_greet hw.running] at hother
    by_cases heq : other = service
    · exact heq ▸ hsame
    · have hgreets : w.source.greets other = true := by simpa [heq] using hother
      exact ((hbut other heq).symm.trans (hw.same other hgreets)).trans (hbut' other heq)

theorem apace_change (hw : Apace w w') {service : String} {s s' : State}
    (hbut : SameBut service w.state s) (hbut' : SameBut service w'.state s')
    (hsame : SameAt service s s') : Apace { w with state := s } { w' with state := s' } := by
  refine ⟨hw.running, hw.running', hw.greets, ?_⟩
  intro other hother
  by_cases heq : other = service
  · exact heq ▸ hsame
  · exact ((hbut other heq).symm.trans (hw.same other hother)).trans (hbut' other heq)

theorem lockstep_apace (hh : h.Explores) : Lockstep h h Apace (Beside fun _ _ => True) where
  create o id id' w := beside_client o id id' w trivial
  service _ _ _ hc := by rw [hc.callsite]
  prepare c c' w w' hc hw := by
    refine alike_prepare hh rfl hc hw hw.running (hh.greeting _ w') ?_ ?_
    · rw [hc.callsite]
      exact sameAt_startOver hw c.callsite.service
    · intro s s' hbut hbut' hsame
      rw [hc.callsite]
      exact apace_greet hw hbut hbut' hsame
  update callsite c c' w w' hc hw hservice :=
    alike_update rfl hc hw hservice (hw.same _) fun _ _ _ => apace_change hw
  register c c' w w' hc hw := by
    cases hphase : c.phase.canBecome .beforeInvoked with
    | false =>
        rw [Client.register_of_not_prepared h hphase,
          Client.register_of_not_prepared h (hc.phase ▸ hphase)]
        simp only [hc.phase]
        exact .error _ hc hw fun _ _ => id
    | true =>
        obtain ⟨id', x, hx, hcarried, -, hgreets⟩ :=
          Client.exists_register_eq hh (s := ⟨c, w⟩) hphase hw.running
        obtain ⟨id'', x', hx', hcarried', -, hgreets'⟩ :=
          Client.exists_register_eq hh (s := ⟨c', w'⟩) (hc.phase ▸ hphase) hw.running'
        rw [hx, hx']
        refine .ok ⟨trivial, ?_, fun hprepared => nomatch hprepared⟩ ?_ fun d d' hd => ?_
        · simp only
          rw [hc.same]
        · refine ⟨?_, ?_, ?_, ?_⟩
          · exact (Explorer.isRunning_of_carried? hcarried).trans hw.running
          · exact (Explorer.isRunning_of_carried? hcarried').trans hw.running'
          · intro service
            simp only
            rw [hgreets, hgreets']
            exact hw.greets service
          · intro service hservice
            simp only at hservice
            rw [hgreets] at hservice
            exact hw.same service hservice
        · exact hd.mono fun service hservice => (hgreets service).trans hservice

theorem names_eq_of_beside {D : Option Fault → Option Fault → Prop} {cs cs' : List Client}
    (hs : List.Forall₂ (Beside D w) cs cs') :
    cs'.map (fun c => (c.index.text, c.clock)) = cs.map fun c => (c.index.text, c.clock) := by
  induction hs with
  | nil => rfl
  | cons hc _ ih => rw [List.map_cons, List.map_cons, ih, hc.index, hc.clock]

/-- Under a harness that asks an explorer, the same calls from the start of two executions get the
same indexes and clocks, whatever the executions before have left.  Under a harness that asks nobody
nothing of that is lost, and the calls go on with it. -/
theorem named_alike (h : Harness Explorer) (s s' : State) (ids ids' : Nat → String)
    (moves : List Move) :
    (h.Explores → ∀ x x' : Explorer, x.AtStart → x'.AtStart →
      ((start ⟨s', x'⟩).run h ids' moves).clients.map (fun c => (c.index.text, c.clock)) =
        ((start ⟨s, x⟩).run h ids moves).clients.map fun c => (c.index.text, c.clock)) ∧
    (h.consults = false → ∀ x : Explorer, ((start ⟨s, x⟩).run h ids moves).GoesOn s) := by
  constructor
  · intro hh x x' hx hx'
    have hstart : Apace ⟨s, x⟩ ⟨s', x'⟩ := apace_of_atStart hx hx'
    have hrun := related_run (lockstep_apace hh) ids ids' (related_start hstart) moves
    exact names_eq_of_beside hrun.clients
  · intro hsilent x
    exact goesOn_run hsilent ids (goesOn_start ⟨s, x⟩) moves

/-- An explorer in its second execution. -/
def second : Explorer :=
  (Explorer.start none false).run [.complete Explorer.furtherMutation, .retire]

theorem atStart_second : second.AtStart := by
  simp only [second, Explorer.run, List.foldl_cons, List.foldl_nil, Explorer.step,
    Explorer.complete_eq Explorer.trailOf_furtherMutation, Explorer.continuation?_furtherMutation]
  rfl

/-- What one call in the first execution leaves behind. -/
def leftover (asks : Bool) : State :=
  ((start ⟨.empty, .start none false⟩).run (plainHarness asks) toString oneCall).world.state

theorem named_alike_leftover :
    ((plainHarness true).Explores ∧ (Explorer.start none false).AtStart ∧ second.AtStart ∧
      ((start ⟨leftover true, second⟩).run (plainHarness true) toString oneCall).clients.map
          (fun c => (c.index.text, c.clock)) =
        ((start ⟨.empty, .start none false⟩).run (plainHarness true) toString oneCall).clients.map
          fun c => (c.index.text, c.clock)) ∧
      (plainHarness false).consults = false ∧
      ((leftover false).index? "a" "r").isSome = true ∧
      ((start ⟨leftover false, second⟩).run (plainHarness false) toString oneCall).GoesOn
        (leftover false) := by
  have hh : (plainHarness true).Explores := ⟨rfl, rfl⟩
  have hfirst := Explorer.atStart_start none false
  obtain ⟨halike, -⟩ :=
    named_alike (plainHarness true) .empty (leftover true) toString toString oneCall
  obtain ⟨-, hgoes⟩ :=
    named_alike (plainHarness false) (leftover false) .empty toString toString oneCall
  exact ⟨⟨hh, hfirst, atStart_second, halike hh _ _ hfirst atStart_second⟩, rfl, by cbv,
    hgoes rfl second⟩

/-- Where nobody is asked the counters of the first execution go on in the second one. -/
theorem leftovers_count :
    (Explorer.start none false).AtStart ∧ second.AtStart ∧
      ((start ⟨.empty, .start none false⟩).run (plainHarness false) toString oneCall).clients.map
          (·.index.text) = ["[[\"V1-[]-[a]-[b,m,[]]-[f,1]-[,]\", 1]]"] ∧
      ((start ⟨leftover false, second⟩).run (plainHarness false) toString oneCall).clients.map
          (·.index.text) = ["[[\"V1-[]-[a]-[b,m,[]]-[f,1]-[,]\", 2]]"] := by
  refine ⟨rfl, atStart_second, ?_, ?_⟩
  · cbv
  · generalize second = x
    cbv

end Traffic

end Faultline
