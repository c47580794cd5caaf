import Faultline.Proofs.Index.Nesting

/-!
# The shape of an index

An index that is built up from the empty one has a stack of which its journal accounts for every
layer (`Stacked`): an entry was put where another key was on top, with a count above all counts of
its key below it, and a count that was raised is above the one that it replaced.  A push puts one
layer on, a pop takes one off.  So what the layers say holds of every index that pushes and pops
lead to (`shaped_of_run`), where the counters are the numbers of the pushes.
-/

namespace Faultline

namespace Index

variable {i j : Index}

/-! ### Counters as numbers of pushes -/

theorem counters_pop (h : i.pop = .ok j) : j.counters = i.counters := by
  unfold pop at h
  split at h <;> cases h <;> rfl

theorem pushes_cons (key : String) (m : Move) (moves : List Move) :
    pushes key (m :: moves) = pushes key moves + if m.pushes key then 1 else 0 :=
  List.countP_cons

/-- A move raises the counter of the key that it pushes. -/
theorem toNat_counter_move {m : Move} (h : i.move m = .ok j) (key : String) :
    (j.counter key).toNat = (i.counter key).toNat + if m.pushes key then 1 else 0 := by
  cases m with
  | push pushed =>
      obtain ⟨n, hn, rfl⟩ := exists_of_push h
      simp only [toNat_counter_pushCounted hn, Move.pushes, beq_iff_eq, eq_comm (a := key)]
  | pop =>
      rw [counter, counters_pop h]
      rfl

/-- A counter goes on by one for every push of its key. -/
theorem toNat_counter_run {moves : List Move} (h : i.run moves = .ok j) (key : String) :
    (j.counter key).toNat = (i.counter key).toNat + pushes key moves := by
  induction moves generalizing i with
  | nil =>
      obtain rfl := Except.ok.inj h
      rfl
  | cons m moves ih =>
      obtain ⟨i', hm, hmoves⟩ := exists_of_run_cons h
      rw [ih hmoves, toNat_counter_move hm, pushes_cons]
      omega

/-! ### Layers -/

/-- Entries, the top first, with the marks of the pushes that have put them there. -/
inductive Stacked : List (Key × UInt64) → List Mark → Prop
  | bare : Stacked [] []
  | appended {f : Key × UInt64} {frames : List (Key × UInt64)} {marks : List Mark} :
    Stacked frames marks → (∀ g ∈ frames.head?, f.1.rendered ≠ g.1.rendered) →
    (∀ g ∈ frames, f.1.rendered = g.1.rendered → g.2 < f.2) → 0 < f.2 →
    Stacked (f :: frames) (.appended :: marks)
  | folded {key : Key} {n previous : UInt64} {frames : List (Key × UInt64)} {marks : List Mark} :
    Stacked ((key, previous) :: frames) marks → previous < n →
    Stacked ((key, n) :: frames) (.folded previous :: marks)

namespace Stacked

variable {frames : List (Key × UInt64)} {marks : List Mark}

theorem pos (h : Stacked frames marks) : ∀ f ∈ frames, 0 < f.2 := by
  induction h with
  | bare => exact List.forall_mem_nil _
  | appended _ _ _ hpos ih => exact List.forall_mem_cons.2 ⟨hpos, ih⟩
  | folded _ hraised ih =>
      obtain ⟨hprevious, hbelow⟩ := List.forall_mem_cons.1 ih
      exact List.forall_mem_cons.2 ⟨UInt64.lt_trans hprevious hraised, hbelow⟩

/-- Neighbours have different keys; raising a count changes no key. -/
theorem isChain (h : Stacked frames marks) :
    frames.IsChain fun f g => f.1.rendered ≠ g.1.rendered := by
  induction h with
  | bare => exact .nil
  | appended _ htop _ _ ih => exact ih.cons htop
  | folded _ _ ih => exact (List.isChain_cons.1 ih).2.cons (List.isChain_cons.1 ih).1

/-- What lies below has smaller counts of the same key. -/
theorem pairwise (h : Stacked frames marks) :
    frames.Pairwise fun f g => f.1.rendered = g.1.rendered → g.2 < f.2 := by
  induction h with
  | bare => exact .nil
  | appended _ _ hless _ ih => exact .cons hless ih
  | folded _ hraised ih =>
      obtain ⟨hless, hbelow⟩ := List.pairwise_cons.1 ih
      exact .cons (fun g hg heq => UInt64.lt_trans (hless g hg heq) hraised) hbelow

theorem count_appended (h : Stacked frames marks) : marks.count .appended = frames.length := by
  induction h with
  | bare => rfl
  | appended _ _ _ _ ih => rw [List.count_cons_self, ih, List.length_cons]
  | folded _ _ ih => rw [List.count_cons_of_ne (by simp), ih]; rfl

theorem ne_nil_of_folded {previous : UInt64} (h : Stacked frames (.folded previous :: marks)) :
    frames ≠ [] := by
  cases h
  exact List.cons_ne_nil _ _

/-- A push with a count above those of its key is one more layer. -/
theorem pushCounted (h : Stacked i.frames i.journal) {key : Key} {n : UInt64} (hpos : 0 < n)
    (hless : ∀ g ∈ i.frames, key.rendered = g.1.rendered → g.2 < n) :
    Stacked (i.pushCounted key n).frames (i.pushCounted key n).journal := by
  unfold Index.pushCounted
  cases hframes : i.frames with
  | nil =>
      rw [hframes] at h hless
      exact .appended h (by simp) hless hpos
  | cons f below =>
      obtain ⟨top, previous⟩ := f
      rw [hframes] at h hless
      by_cases hsame : top.rendered = key.rendered
      · simp only [hsame, if_true]
        exact .folded h (hless _ List.mem_cons_self hsame.symm)
      · simp only [hsame, if_false]
        refine .appended h ?_ hless hpos
        rintro g ⟨⟩
        exact Ne.symm hsame

/-- A pop takes the last layer off. -/
theorem pop (h : Stacked i.frames i.journal) (hpop : i.pop = .ok j) :
    Stacked j.frames j.journal := by
  obtain ⟨frames, counters, journal⟩ := i
  cases h with
  | bare => cases hpop
  | appended hbelow =>
      obtain rfl := Except.ok.inj hpop
      exact hbelow
  | folded hbefore =>
      obtain rfl := Except.ok.inj hpop
      exact hbefore

end Stacked

/-! ### Pushes and pops on the empty index -/

/-- Every count on the stack is below the next one of its key, so that a move keeps the layers. -/
theorem stacked_move (hi : i.Ahead) (h : Stacked i.frames i.journal) {m : Move}
    (hm : i.move m = .ok j) : Stacked j.frames j.journal := by
  cases m with
  | push key =>
      obtain ⟨n, hn, rfl⟩ := exists_of_push hm
      refine h.pushCounted (UInt64.lt_iff_toNat_lt.2 ?_) fun g hg heq => ?_
      · rw [hn]
        exact Nat.succ_pos _
      · have hle := UInt64.le_iff_toNat_le.1 (hi.le g hg)
        rw [← heq] at hle
        rw [UInt64.lt_iff_toNat_lt]
        omega
  | pop => exact h.pop hm

theorem stacked_run (hi : i.Ahead) (h : Stacked i.frames i.journal) {moves : List Move}
    (hrun : i.run moves = .ok j) : Stacked j.frames j.journal := by
  induction moves generalizing i with
  | nil =>
      obtain rfl := Except.ok.inj hrun
      exact h
  | cons m moves ih =>
      obtain ⟨i', hm, hmoves⟩ := exists_of_run_cons hrun
      exact ih (hi.move hm).1 (stacked_move hi h hm) hmoves

/-- The shape of an index of which the keys were pushed so many times. -/
structure Shaped (i : Index) (pushed : String → Nat) : Prop where
  neighbours : i.trail.IsChain fun e f => e.1 ≠ f.1
  counts : ∀ e ∈ i.trail, 1 ≤ e.2.toNat ∧ e.2.toNat ≤ pushed e.1
  /-- From the bottom up. -/
  increasing : i.trail.Pairwise fun e f => e.1 = f.1 → e.2 < f.2
  appended : i.journal.count .appended = i.size
  folded : ∀ previous marks, i.journal = .folded previous :: marks → i.isEmpty = false

/-- Whatever pushes and pops lead to from the empty index: neighbouring entries have different
keys, a count is at least one and at most the number of the pushes of its key, the counts of a key
increase from the bottom up, the journal has a mark for every entry, and a raised count has an
entry. -/
theorem shaped_of_run {moves : List Move} (h : empty.run moves = .ok i) :
    i.Shaped fun key => pushes key moves := by
  have hstacked : Stacked i.frames i.journal := stacked_run ahead_empty .bare h
  have hahead : i.Ahead := (ahead_empty.run h).1
  refine ⟨?_, ?_, ?_, hstacked.count_appended, ?_⟩
  · rw [trail, List.isChain_map, List.isChain_reverse]
    exact hstacked.isChain.imp fun _ _ => Ne.symm
  · intro e he
    have hpushes := toNat_counter_run h e.1
    have hle := UInt64.le_iff_toNat_le.1 (hahead.le_of_mem_trail he)
    have hzero : (empty.counter e.1).toNat = 0 := rfl
    obtain ⟨f, hf, rfl⟩ := List.mem_map.1 he
    have hpos := UInt64.lt_iff_toNat_lt.1 (hstacked.pos f (List.mem_reverse.1 hf))
    exact ⟨hpos, by omega⟩
  · rw [trail, List.pairwise_map, List.pairwise_reverse]
    exact hstacked.pairwise.imp fun hless heq => hless heq.symm
  · intro previous marks hjournal
    rw [hjournal] at hstacked
    rw [isEmpty, List.isEmpty_eq_false_iff]
    exact hstacked.ne_nil_of_folded

/-- A count that was raised twice and put back once, above an older entry of its key. -/
theorem shaped_of_run_raised :
    let a := Key.ofRendered "a"
    let b := Key.ofRendered "b"
    let moves : List Move := [.push a, .push b, .push a, .push a, .push a, .pop]
    let i : Index := ⟨[(a, 3), (b, 1), (a, 1)], .ofList [("a", 4), ("b", 1)],
      [.folded 2, .appended, .appended, .appended]⟩
    empty.run moves = .ok i ∧ i.trail = [("a", 1), ("b", 1), ("a", 3)] ∧ pushes "a" moves = 4 ∧
      i.Shaped fun key => pushes key moves := by
  intro a b moves i
  have hrun : empty.run moves = .ok i := by cbv
  exact ⟨hrun, by cbv, by cbv, shaped_of_run hrun⟩

end Index

end Faultline
