import Faultline.Proofs.Traffic.Basic
import Mathlib.Data.List.Forall2

/-!
# Two runs side by side

The same moves under two harnesses, with other ids for the requests that the calls make.  Where
every operation takes related clients in related worlds to the same outcome with related clients
in related worlds (`Lockstep`), whole runs do (`related_run`).  Clients are related in view of the
first world, and stay related in what an operation of another client makes of it.
-/

namespace Faultline

namespace Traffic

variable {σ τ : Type} {h : Harness σ} {h' : Harness τ}
variable {W : World σ → World τ → Prop} {C : World σ → Client → Client → Prop}

/-- The same outcome, with related clients and worlds; what was related in `w` still is. -/
inductive Alike (W : World σ → World τ → Prop) (C : World σ → Client → Client → Prop)
    (w : World σ) :
    EStateM.Result Violation (Session σ) Unit → EStateM.Result Violation (Session τ) Unit → Prop
  | ok {s : Session σ} {s' : Session τ} :
    C s.world s.client s'.client → W s.world s'.world →
    (∀ d d', C w d d' → C s.world d d') → Alike W C w (.ok () s) (.ok () s')
  | error (v : Violation) {s : Session σ} {s' : Session τ} :
    C s.world s.client s'.client → W s.world s'.world →
    (∀ d d', C w d d' → C s.world d d') → Alike W C w (.error v s) (.error v s')

/-- What makes two runs go side by side. -/
structure Lockstep (h : Harness σ) (h' : Harness τ) (W : World σ → World τ → Prop)
    (C : World σ → Client → Client → Prop) : Prop where
  create : ∀ (o : Opening) id id' w, C w (o.client id) (o.client id')
  service : ∀ w c c', C w c c' → c'.callsite.service = c.callsite.service
  prepare : ∀ c c' w w', C w c c' → W w w' →
    Alike W C w (Client.prepare h ⟨c, w⟩) (Client.prepare h' ⟨c', w'⟩)
  update : ∀ (callsite : Callsite) c c' w w', C w c c' → W w w' →
    callsite.service = c.callsite.service →
    Alike W C w (Client.updateCallsite h callsite ⟨c, w⟩)
      (Client.updateCallsite h' callsite ⟨c', w'⟩)
  register : ∀ c c' w w', C w c c' → W w w' →
    Alike W C w (Client.register h ⟨c, w⟩) (Client.register h' ⟨c', w'⟩)

structure Related (W : World σ → World τ → Prop) (C : World σ → Client → Client → Prop)
    (t : Traffic σ) (t' : Traffic τ) : Prop where
  world : W t.world t'.world
  clients : List.Forall₂ (C t.world) t.clients t'.clients
  violations : t'.violations = t.violations

theorem related_start {w : World σ} {w' : World τ} (hw : W w w') :
    Related W C (start w) (start w') :=
  ⟨hw, .nil, rfl⟩

theorem forall₂_set {α β : Type} {R : α → β → Prop} {as : List α} {bs : List β}
    (hs : List.Forall₂ R as bs) (i : Nat) {a : α} {b : β} (hab : R a b) :
    List.Forall₂ R (as.set i a) (bs.set i b) := by
  induction hs generalizing i with
  | nil => exact .nil
  | cons hR hs ih =>
      cases i with
      | zero => exact .cons hab hs
      | succ i => exact .cons hR (ih i)

variable {t : Traffic σ} {t' : Traffic τ}

theorem related_settle (ht : Related W C t t') (i : Nat)
    {r : EStateM.Result Violation (Session σ) Unit} {r' : EStateM.Result Violation (Session τ) Unit}
    (hr : Alike W C t.world r r') : Related W C (t.settle i r) (t'.settle i r') := by
  cases hr with
  | ok hc hw hmono => exact ⟨hw, forall₂_set (ht.clients.imp hmono) i hc, ht.violations⟩
  | error v hc hw hmono =>
      exact ⟨hw, forall₂_set (ht.clients.imp hmono) i hc, congrArg (· ++ [v]) ht.violations⟩

theorem related_act (ht : Related W C t t') (i : Nat) {a : Client → Client.Act σ Unit}
    {a' : Client → Client.Act τ Unit}
    (ha : ∀ c c', C t.world c c' → Alike W C t.world (a c ⟨c, t.world⟩) (a' c' ⟨c', t'.world⟩)) :
    Related W C (t.act i a) (t'.act i a') := by
  have hget := List.forall₂_iff_get.1 ht.clients
  unfold act
  by_cases hi : i < t.clients.length
  · have hi' : i < t'.clients.length := hget.1 ▸ hi
    rw [List.getElem?_eq_getElem hi, List.getElem?_eq_getElem hi']
    exact related_settle ht i (ha _ _ (hget.2 i hi hi'))
  · have hi' : ¬ i < t'.clients.length := hget.1 ▸ hi
    rw [List.getElem?_eq_none (Nat.le_of_not_lt hi), List.getElem?_eq_none (Nat.le_of_not_lt hi')]
    exact ht

theorem related_step (hl : Lockstep h h' W C) (ids ids' : Nat → String) (ht : Related W C t t')
    (m : Move) : Related W C (t.step h ids m) (t'.step h' ids' m) := by
  cases m with
  | create o =>
      have hnew := hl.create o (ids t.clients.length) (ids' t'.clients.length) t.world
      exact ⟨ht.world, List.rel_append ht.clients (.cons hnew .nil), ht.violations⟩
  | prepare i => exact related_act ht i fun c c' hc => hl.prepare c c' _ _ hc ht.world
  | update i callsite =>
      apply related_act ht i
      intro c c' hc
      rw [hl.service _ c c' hc]
      exact hl.update _ c c' _ _ hc ht.world rfl
  | register i => exact related_act ht i fun c c' hc => hl.register c c' _ _ hc ht.world

theorem related_run (hl : Lockstep h h' W C) (ids ids' : Nat → String) (ht : Related W C t t')
    (moves : List Move) : Related W C (t.run h ids moves) (t'.run h' ids' moves) := by
  induction moves generalizing t t' with
  | nil => exact ht
  | cons m moves ih => exact ih (related_step hl ids ids' ht m)

end Traffic

end Faultline
