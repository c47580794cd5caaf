import Faultline.Proofs.Index
import Faultline.Proofs.Trail
import Mathlib

/-!
# The text of an index

An index is read back from its text, as far as it shows (`text_faithful`).  No push brings an
earlier text back (`text_never_repeats`): the count that it takes is above every count of its key
that the index shows, or would show again once pushes are undone (`Covered`).
-/

namespace Faultline

namespace Index

theorem same_iff {i j : Index} : i.same j = true ↔ i.trail = j.trail := by
  rw [same, beq_iff_eq]

theorem same_iff_text {i j : Index} : i.same j = true ↔ i.text = j.text := by
  rw [same_iff, text, text, Trail.text_inj]

theorem parse?_text (i : Index) : parse? i.text = some (ofTrail i.trail) := by
  rw [parse?, text, Trail.parse?_text, Option.map_some]

/-- What is read from a text is read again from its own text. -/
theorem parse?_text_of_parse? {s : String} {i : Index} (h : parse? s = some i) :
    parse? i.text = some i := by
  obtain ⟨t, -, rfl⟩ := Option.map_eq_some_iff.1 h
  rw [parse?_text, trail_ofTrail]

/-- The text of every index can be read and gives an equal index, indexes are equal exactly when
their texts are, and a text that can be read gives the same index as the text of that index. -/
theorem text_faithful (i j : Index) :
    (∃ read, parse? i.text = some read ∧ read.same i = true) ∧
      (i.same j = true ↔ i.text = j.text) ∧
      ∀ s k, parse? s = some k → parse? k.text = some k :=
  ⟨⟨ofTrail i.trail, parse?_text i, same_iff.2 (trail_ofTrail _)⟩, same_iff_text,
    fun _ _ => parse?_text_of_parse?⟩

/-- A text with blanks, escapes and the largest count. -/
def spacedText : String :=
  " [ [\"\\u0061\\\"\\n\",18446744073709551615], [\"\\\\é\" , 0]]"

theorem text_faithful_spacedText :
    let k := ofTrail [("a\"\n", 0xFFFFFFFFFFFFFFFF), ("\\é", 0)]
    parse? spacedText = some k ∧
      k.text = "[[\"a\\\"\\n\", 18446744073709551615], [\"\\\\é\", 0]]" ∧
      parse? k.text = some k := by
  intro k
  have hread : parse? spacedText = some k := by cbv
  exact ⟨hread, by cbv, (text_faithful k k).2.2 spacedText k hread⟩

/-! ### Histories -/

inductive Move where
  | push (key : Key)
  | pop

def move (i : Index) : Move → Except Violation Index
  | .push key => i.push key
  | .pop => i.pop

def run (i : Index) (moves : List Move) : Except Violation Index :=
  moves.foldlM move i

theorem run_cons (i : Index) (m : Move) (moves : List Move) :
    i.run (m :: moves) = (i.move m).bind fun j => j.run moves := by
  rw [run, List.foldlM_cons]
  rfl

theorem run_append (i : Index) (front back : List Move) :
    i.run (front ++ back) = (i.run front).bind fun j => j.run back := by
  rw [run, List.foldlM_append]
  rfl

theorem run_singleton (i : Index) (m : Move) : i.run [m] = i.move m := by
  rw [run_cons]
  cases i.move m <;> rfl

theorem exists_of_run_append {i k : Index} {front back : List Move}
    (h : i.run (front ++ back) = .ok k) : ∃ j, i.run front = .ok j ∧ j.run back = .ok k := by
  rw [run_append] at h
  cases hfront : i.run front with
  | error v =>
      rw [hfront] at h
      cases h
  | ok j =>
      rw [hfront] at h
      exact ⟨j, rfl, h⟩

theorem exists_of_run_cons {i j : Index} {m : Move} {moves : List Move}
    (h : i.run (m :: moves) = .ok j) : ∃ i', i.move m = .ok i' ∧ i'.run moves = .ok j := by
  rw [← List.singleton_append] at h
  obtain ⟨i', hm, hmoves⟩ := exists_of_run_append h
  rw [run_singleton] at hm
  exact ⟨i', hm, hmoves⟩

theorem exists_of_run_concat {i j : Index} {moves : List Move} {m : Move}
    (h : i.run (moves ++ [m]) = .ok j) : ∃ i', i.run moves = .ok i' ∧ i'.move m = .ok j := by
  obtain ⟨i', hmoves, hm⟩ := exists_of_run_append h
  rw [run_singleton] at hm
  exact ⟨i', hmoves, hm⟩

/-- No count is above the counter of its key, be it on the stack or put back by an undone push. -/
inductive Covered (counter : String → UInt64) : List (Key × UInt64) → List Mark → Prop
  | bare {frames : List (Key × UInt64)} :
    (∀ f ∈ frames, f.2 ≤ counter f.1.rendered) → Covered counter frames []
  | appended {f : Key × UInt64} {frames : List (Key × UInt64)} {marks : List Mark} :
    f.2 ≤ counter f.1.rendered → Covered counter frames marks →
    Covered counter (f :: frames) (.appended :: marks)
  | folded {key : Key} {n previous : UInt64} {frames : List (Key × UInt64)} {marks : List Mark} :
    n ≤ counter key.rendered → Covered counter ((key, previous) :: frames) marks →
    Covered counter ((key, n) :: frames) (.folded previous :: marks)

namespace Covered

variable {counter counter' : String → UInt64} {frames : List (Key × UInt64)} {marks : List Mark}

theorem le (h : Covered counter frames marks) : ∀ f ∈ frames, f.2 ≤ counter f.1.rendered := by
  induction h with
  | bare hframes => exact hframes
  | appended hf _ ih => exact List.forall_mem_cons.2 ⟨hf, ih⟩
  | folded hn _ ih => exact List.forall_mem_cons.2 ⟨hn, (List.forall_mem_cons.1 ih).2⟩

theorem mono (h : Covered counter frames marks) (hle : ∀ k, counter k ≤ counter' k) :
    Covered counter' frames marks := by
  induction h with
  | bare hframes => exact .bare fun f hf => UInt64.le_trans (hframes f hf) (hle _)
  | appended hf _ ih => exact .appended (UInt64.le_trans hf (hle _)) ih
  | folded hn _ ih => exact .folded (UInt64.le_trans hn (hle _)) ih

end Covered

/-- The counters of an index are ahead of its counts. -/
def Ahead (i : Index) : Prop :=
  Covered i.counter i.frames i.journal

theorem ahead_empty : empty.Ahead :=
  .bare fun _ hf => by cases hf

/-- The counters of an index that is read are the largest counts of their keys. -/
theorem ahead_ofTrail (t : Trail) : (ofTrail t).Ahead := by
  refine .bare fun f hf => ?_
  obtain ⟨e, he, rfl⟩ := List.mem_map.1 (List.mem_reverse.1 hf)
  rw [UInt64.le_iff_toNat_le, counter_ofTrail]
  exact Trail.le_maxCount he

namespace Ahead

variable {i j : Index}

theorem pushCounted (hi : i.Ahead) {key : Key} {n : UInt64} (hn : i.counter key.rendered ≤ n) :
    (i.pushCounted key n).Ahead ∧ ∀ k, i.counter k ≤ (i.pushCounted key n).counter k := by
  have htop : n ≤ (i.pushCounted key n).counter key.rendered := by
    rw [counter_pushCounted, if_pos rfl]
    exact UInt64.le_refl n
  have hmono : ∀ k, i.counter k ≤ (i.pushCounted key n).counter k := by
    intro k
    rw [counter_pushCounted]
    split
    · next hk => exact hk ▸ hn
    · exact UInt64.le_refl _
  refine ⟨?_, hmono⟩
  have hkept := hi.mono hmono
  unfold Ahead
  generalize (i.pushCounted key n).counter = counter at htop hkept
  unfold Index.pushCounted
  cases hframes : i.frames with
  | nil =>
      rw [hframes] at hkept
      exact .appended htop hkept
  | cons f below =>
      obtain ⟨top, previous⟩ := f
      rw [hframes] at hkept
      by_cases hsame : top.rendered = key.rendered
      · simp only [hsame, if_true]
        exact .folded (hsame ▸ htop) hkept
      · simp only [hsame, if_false]
        exact .appended htop hkept

/-- A pop takes no counter back. -/
theorem pop (hi : i.Ahead) (h : i.pop = .ok j) : j.Ahead ∧ j.counters = i.counters := by
  obtain ⟨frames, counters, journal⟩ := i
  unfold Index.pop at h
  cases hi with
  | bare hframes =>
      cases frames with
      | nil => cases h
      | cons f below =>
          obtain rfl := Except.ok.inj h
          exact ⟨.bare (List.forall_mem_cons.1 hframes).2, rfl⟩
  | appended _ hbelow =>
      obtain rfl := Except.ok.inj h
      exact ⟨hbelow, rfl⟩
  | folded _ hbelow =>
      obtain rfl := Except.ok.inj h
      exact ⟨hbelow, rfl⟩

theorem move (hi : i.Ahead) {m : Move} (h : i.move m = .ok j) :
    j.Ahead ∧ ∀ k, i.counter k ≤ j.counter k := by
  cases m with
  | push key =>
      obtain ⟨n, hn, rfl⟩ := exists_of_push h
      refine hi.pushCounted ?_
      rw [UInt64.le_iff_toNat_le]
      omega
  | pop =>
      obtain ⟨hj, hcounters⟩ := hi.pop h
      refine ⟨hj, fun k => ?_⟩
      rw [counter, counter, hcounters]
      exact UInt64.le_refl _

theorem run (hi : i.Ahead) {moves : List Move} (h : i.run moves = .ok j) :
    j.Ahead ∧ ∀ k, i.counter k ≤ j.counter k := by
  induction moves generalizing i with
  | nil =>
      obtain rfl := Except.ok.inj h
      exact ⟨hi, fun _ => UInt64.le_refl _⟩
  | cons m moves ih =>
      obtain ⟨i', hm, hmoves⟩ := exists_of_run_cons h
      obtain ⟨hi', hle⟩ := hi.move hm
      obtain ⟨hj, hle'⟩ := ih hi' hmoves
      exact ⟨hj, fun k => UInt64.le_trans (hle k) (hle' k)⟩

/-- A count that shows is not above the counter of its key. -/
theorem le_of_mem_trail (hi : i.Ahead) {e : String × UInt64} (he : e ∈ i.trail) :
    e.2 ≤ i.counter e.1 := by
  obtain ⟨f, hf, rfl⟩ := List.mem_map.1 he
  exact hi.le f (List.mem_reverse.1 hf)

end Ahead

/-- What an index shows right after a push it has shown at no moment before, from its start on,
which is an empty index or one that was read. -/
theorem text_never_repeats {i j k : Index} (hstart : i = empty ∨ ∃ s, parse? s = some i)
    {before between : List Move} {key : Key} (hbefore : i.run before = .ok j)
    (hpush : j.run (between ++ [.push key]) = .ok k) : k.text ≠ j.text := by
  have hi : i.Ahead := by
    rcases hstart with rfl | ⟨s, hs⟩
    · exact ahead_empty
    · obtain ⟨t, -, rfl⟩ := Option.map_eq_some_iff.1 hs
      exact ahead_ofTrail t
  obtain ⟨hj, -⟩ := hi.run hbefore
  obtain ⟨j', hbetween, hlast⟩ := exists_of_run_concat hpush
  obtain ⟨n, hn, rfl⟩ := exists_of_push hlast
  intro htext
  have htop : (key.rendered, n) ∈ j.trail := by
    rw [← Trail.text_inj.1 htext, trail_pushCounted_eq, Trail.extend]
    exact List.mem_append_right _ List.mem_cons_self
  have hle : n ≤ j'.counter key.rendered :=
    UInt64.le_trans (hj.le_of_mem_trail htop) ((hj.run hbetween).2 key.rendered)
  have := UInt64.le_iff_toNat_le.1 hle
  omega

/-- An index that is read with a repeated key: the count that a pop has brought back is not taken
again. -/
theorem text_never_repeats_folded :
    let a := Key.ofRendered "a"
    let b := Key.ofRendered "b"
    let i := ofTrail [("a", 1), ("a", 3)]
    let j : Index := ⟨[(a, 4)], .ofList [("a", 4)], [.folded 1]⟩
    let k : Index := ⟨[(a, 5)], .ofList [("a", 5), ("b", 1)], [.folded 1]⟩
    parse? "[[\"a\",1],[\"a\",3]]" = some i ∧ i.run [.pop, .push a] = .ok j ∧
      j.run ([.pop, .push b, .pop] ++ [.push a]) = .ok k ∧
      j.text = "[[\"a\", 4]]" ∧ k.text = "[[\"a\", 5]]" ∧ k.text ≠ j.text := by
  intro a b i j k
  have hread : parse? "[[\"a\",1],[\"a\",3]]" = some i := by cbv
  have hbefore : i.run [.pop, .push a] = .ok j := by cbv
  have hpush : j.run ([.pop, .push b, .pop] ++ [.push a]) = .ok k := by cbv
  exact ⟨hread, hbefore, hpush, by cbv, by cbv,
    text_never_repeats (.inr ⟨_, hread⟩) hbefore hpush⟩

end Index

end Faultline
