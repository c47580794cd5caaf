import Faultline.Proofs.Sameness
import Mathlib

/-!
# Plans from finitely many faults

A menu has finitely many faults for each of finitely many calls.  A plan from the menu is told by
its choice at each call, so that different plans are no more than choices (`length_le_size`), and
as many if every assignment of faults to calls is among them (`size_le_length`).
-/

namespace Faultline

/-- Finitely many faults for each of finitely many calls. -/
structure Menu where
  calls : Finset Trail
  faults : Trail → List Fault

namespace Menu

variable {m : Menu} {p q : Plan} {ps : List Plan}

/-- The number of ways to choose at most one fault for each call. -/
def size (m : Menu) : Nat :=
  ∏ t ∈ m.calls, (1 + (m.faults t).length)

/-- The fault is on the menu for the call, up to sameness. -/
def Has (m : Menu) (t : Trail) (f : Fault) : Prop :=
  t ∈ m.calls ∧ ∃ g ∈ m.faults t, g.same f = true

/-- No call has a fault twice. -/
def Distinct (m : Menu) : Prop :=
  ∀ t, (m.faults t).Pairwise fun f g => ¬ f.same g = true

/-- The plan has no faults but those on the menu. -/
def Covers (m : Menu) (p : Plan) : Prop :=
  ∀ t f, p.get? t = some f → m.Has t f

/-- At most one fault of the menu for each call. -/
def Assigns (m : Menu) (a : Trail → Option Fault) : Prop :=
  ∀ t f, a t = some f → t ∈ m.calls ∧ f ∈ m.faults t

theorem covers_empty (m : Menu) : m.Covers .empty := by
  intro t f h
  cases h

theorem Covers.put (h : m.Covers p) {t : Trail} {f : Fault} (hf : m.Has t f) :
    m.Covers (p.put t f) := by
  intro u g hg
  rw [Ledger.get?_put] at hg
  split at hg
  · next hu =>
    obtain rfl := Option.some.inj hg
    exact hu ▸ hf
  · exact h u g hg

/-- Where the fault of a plan for a call stands on the menu. -/
def choice (m : Menu) (p : Plan) (t : Trail) : Option (Fin (m.faults t).length) :=
  (p.get? t).bind fun f => (m.faults t).findFinIdx? fun g => g.same f

/-- The choices of a plan at all calls of the menu. -/
def choices (m : Menu) (p : Plan) (t : m.calls) : Option (Fin (m.faults t).length) :=
  m.choice p t

theorem card_choices (m : Menu) :
    Fintype.card ((t : m.calls) → Option (Fin (m.faults t).length)) = m.size := by
  have hcard : ∀ t : m.calls,
      Fintype.card (Option (Fin (m.faults t).length)) = 1 + (m.faults t).length := by
    intro t
    rw [Fintype.card_option, Fintype.card_fin, add_comm]
  rw [Fintype.card_pi, Fintype.prod_congr _ _ hcard]
  exact Finset.prod_coe_sort m.calls fun t => 1 + (m.faults t).length

/-- A fault on the menu has its place there. -/
theorem exists_choice (h : m.Covers p) {t : Trail} {f : Fault} (hf : p.get? t = some f) :
    ∃ i, m.choice p t = some i ∧ (m.faults t)[i].same f = true := by
  obtain ⟨-, g, hg, hsame⟩ := h t f hf
  rw [choice, hf, Option.bind_some]
  cases hfind : (m.faults t).findFinIdx? fun g => g.same f with
  | none => exact absurd hsame (List.findFinIdx?_eq_none_iff.1 hfind g hg)
  | some i => exact ⟨i, rfl, (List.findFinIdx?_eq_some_iff.1 hfind).1⟩

theorem choice_eq_none (h : p.get? t = none) : m.choice p t = none := by
  rw [choice, h, Option.bind_none]

/-- Plans from the menu with the same choices agree. -/
theorem agrees_of_choices_eq (hp : m.Covers p) (hq : m.Covers q) (h : m.choices p = m.choices q) :
    p.Agrees q := by
  have hchoice : ∀ t ∈ m.calls, m.choice p t = m.choice q t := fun t ht => congrFun h ⟨t, ht⟩
  intro t
  cases hf : p.get? t with
  | none =>
      cases hg : q.get? t with
      | none => rfl
      | some g =>
          obtain ⟨i, hi, -⟩ := exists_choice hq hg
          rw [← hchoice t (hq t g hg).1, choice_eq_none hf] at hi
          cases hi
  | some f =>
      obtain ⟨i, hi, hsame⟩ := exists_choice hp hf
      cases hg : q.get? t with
      | none =>
          rw [hchoice t (hp t f hf).1, choice_eq_none hg] at hi
          cases hi
      | some g =>
          obtain ⟨j, hj, hsame'⟩ := exists_choice hq hg
          rw [hchoice t (hp t f hf).1, hj] at hi
          obtain rfl := Option.some.inj hi
          exact Fault.same_trans (Fault.same_symm hsame) hsame'

/-- Different plans from the menu are at most as many as its choices. -/
theorem length_le_size (hps : ps.Pairwise fun p q => ¬ p.Agrees q)
    (hcovers : ∀ p ∈ ps, m.Covers p) : ps.length ≤ m.size := by
  have hnodup : (ps.map m.choices).Nodup := by
    refine List.pairwise_map.2 (hps.imp_of_mem fun hp hq hdiffer heq => ?_)
    exact hdiffer (agrees_of_choices_eq (hcovers _ hp) (hcovers _ hq) heq)
  have hlength := hnodup.length_le_card
  rwa [List.length_map, card_choices] at hlength

/-! ### Assignments -/

/-- The assignment with given choices. -/
def assignment (m : Menu) (c : (t : m.calls) → Option (Fin (m.faults t).length)) (t : Trail) :
    Option Fault :=
  if h : t ∈ m.calls then (c ⟨t, h⟩).map fun i => (m.faults t)[i] else none

theorem assigns_assignment (c : (t : m.calls) → Option (Fin (m.faults t).length)) :
    m.Assigns (m.assignment c) := by
  intro t f h
  unfold assignment at h
  split at h
  · next ht =>
    obtain ⟨i, -, rfl⟩ := Option.map_eq_some_iff.1 h
    exact ⟨ht, List.getElem_mem _⟩
  · cases h

end Menu

/-- The plan has the faults of an assignment, up to sameness. -/
def Plan.Carries (p : Plan) (a : Trail → Option Fault) : Prop :=
  ∀ t, Fault.sameOption (p.get? t) (a t) = true

namespace Plan

variable {p q : Plan} {a : Trail → Option Fault}

theorem carries_iff : p.Carries a ↔
    ∀ t, (p.get? t).map (·.toObject.canonical) = (a t).map (·.toObject.canonical) :=
  forall_congr' fun _ => Fault.sameOption_iff

/-- Plans with the faults of one assignment agree. -/
theorem Carries.agrees (hp : p.Carries a) (hq : q.Carries a) : p.Agrees q :=
  agrees_iff.2 fun t => (carries_iff.1 hp t).trans (carries_iff.1 hq t).symm

end Plan

namespace Menu

variable {m : Menu} {p q : Plan} {ps : List Plan} {a : Trail → Option Fault}

/-- A menu without repetitions tells the choices of a plan from its faults. -/
theorem choices_of_carries (hm : m.Distinct) {c : (t : m.calls) → Option (Fin (m.faults t).length)}
    (h : p.Carries (m.assignment c)) : m.choices p = c := by
  funext ⟨t, ht⟩
  have hsame := h t
  rw [assignment, dif_pos ht] at hsame
  rw [choices, choice]
  cases hc : c ⟨t, ht⟩ with
  | none =>
      rw [hc] at hsame
      cases hf : p.get? t with
      | none => rfl
      | some f => rw [hf] at hsame; exact Bool.noConfusion hsame
  | some i =>
      rw [hc] at hsame
      cases hf : p.get? t with
      | none => rw [hf] at hsame; exact Bool.noConfusion hsame
      | some f =>
          rw [hf] at hsame
          rw [Option.bind_some, List.findFinIdx?_eq_some_iff]
          refine ⟨Fault.same_symm hsame, fun j hj hsame' => ?_⟩
          exact List.pairwise_iff_getElem.1 (hm t) j i _ _ hj (Fault.same_trans hsame' hsame)

/-- A plan from the menu has the faults of an assignment. -/
theorem carries_assignment (h : m.Covers p) : p.Carries (m.assignment (m.choices p)) := by
  intro t
  unfold assignment
  split
  · cases hf : p.get? t with
    | none => rw [choices, choice_eq_none hf]; rfl
    | some f =>
        obtain ⟨i, hi, hsame⟩ := exists_choice h hf
        rw [choices, hi]
        exact Fault.same_symm hsame
  · next ht =>
    cases hf : p.get? t with
    | none => rfl
    | some f => exact absurd (h t f hf).1 ht

/-- Plans among which is every assignment are at least as many as the choices. -/
theorem size_le_length (hm : m.Distinct) (h : ∀ a, m.Assigns a → ∃ p ∈ ps, p.Carries a) :
    m.size ≤ ps.length := by
  have hall : ∀ c, c ∈ ps.map m.choices := by
    intro c
    obtain ⟨p, hp, hcarries⟩ := h (m.assignment c) (assigns_assignment c)
    exact List.mem_map.2 ⟨p, hp, choices_of_carries hm hcarries⟩
  have huniv : (ps.map m.choices).toFinset = Finset.univ :=
    Finset.eq_univ_of_forall fun c => List.mem_toFinset.2 (hall c)
  calc m.size = (ps.map m.choices).toFinset.card := by
        rw [huniv, Finset.card_univ, card_choices]
    _ ≤ (ps.map m.choices).length := List.toFinset_card_le _
    _ = ps.length := List.length_map _

end Menu

end Faultline
