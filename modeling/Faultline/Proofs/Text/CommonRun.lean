import Faultline.Text.Fragment
import Mathlib.Data.List.Infix
import Mathlib.Order.MinMax

/-!
# The longest run of two texts

A run of characters that stands in two lists, such that no longer one does and none of its length
starts earlier in the first list.  There is one such run (`IsLongestCommon.unique`), and
`isLongestCommon_longestCommonRun` says that it is the one that is found.  How far a list agrees
with the tails of another one tells which of its beginnings stand there (`infix_iff`).
-/

namespace Faultline.Text

/-- A longest run that stands in both lists, the first of its length in `cs`. -/
structure IsLongestCommon (cs bs run : List Char) : Prop where
  common : run <:+: cs ∧ run <:+: bs
  longest : ∀ r, r <:+: cs → r <:+: bs → r.length ≤ run.length
  earliest : ∃ front, front ++ run <+: cs ∧ ∀ front' r, front' ++ r <+: cs → r <:+: bs →
    r.length = run.length → front.length ≤ front'.length

theorem IsLongestCommon.unique {cs bs run run' : List Char} (h : IsLongestCommon cs bs run)
    (h' : IsLongestCommon cs bs run') : run = run' := by
  have hlength : run.length = run'.length :=
    Nat.le_antisymm (h'.longest run h.common.1 h.common.2) (h.longest run' h'.common.1 h'.common.2)
  obtain ⟨front, hfront, hleast⟩ := h.earliest
  obtain ⟨front', hfront', hleast'⟩ := h'.earliest
  have hstart : front.length = front'.length :=
    Nat.le_antisymm (hleast front' run' hfront' h'.common.2 hlength.symm)
      (hleast' front run hfront h.common.2 hlength)
  have hsame : front ++ run = front' ++ run' := by
    rw [List.prefix_iff_eq_take.1 hfront, List.prefix_iff_eq_take.1 hfront', List.length_append,
      List.length_append, hstart, hlength]
  exact (List.append_inj hsame hstart).2

/-! ### How far two lists agree -/

/-- How many characters two lists have in common at their heads. -/
def agreement : List Char → List Char → Nat
  | c :: cs, d :: ds => if c = d then agreement cs ds + 1 else 0
  | _, _ => 0

@[simp] theorem agreement_nil_left (ds : List Char) : agreement [] ds = 0 := rfl

@[simp] theorem agreement_nil_right (cs : List Char) : agreement cs [] = 0 := by
  cases cs <;> rfl

theorem agreement_cons (c d : Char) (cs ds : List Char) :
    agreement (c :: cs) (d :: ds) = if c = d then agreement cs ds + 1 else 0 := rfl

theorem agreement_le (cs ds : List Char) :
    agreement cs ds ≤ cs.length ∧ agreement cs ds ≤ ds.length := by
  induction cs generalizing ds with
  | nil => simp
  | cons c cs ih =>
      cases ds with
      | nil => simp
      | cons d ds =>
          rw [agreement_cons]
          split
          · simpa using ih ds
          · simp

/-- A beginning of one list is one of the other as far as they agree. -/
theorem prefix_iff {r cs : List Char} (h : r <+: cs) (ds : List Char) :
    r <+: ds ↔ r.length ≤ agreement cs ds := by
  induction r generalizing cs ds with
  | nil => simp
  | cons a r ih =>
      cases cs with
      | nil => simp at h
      | cons c cs =>
          obtain ⟨rfl, hr⟩ := List.cons_prefix_cons.1 h
          cases ds with
          | nil => simp
          | cons d ds =>
              rw [List.cons_prefix_cons, agreement_cons, List.length_cons]
              split
              · next hd => simp [hd, ih hr ds]
              · next hd => simp [hd]

theorem extendLengths_eq (c : Char) (cs bs : List Char) :
    extendLengths c bs (bs.tails.map (agreement cs)) = bs.tails.map (agreement (c :: cs)) := by
  induction bs with
  | nil => rfl
  | cons d ds ih =>
      have htails : (ds.tails.map (agreement cs)) =
          agreement cs ds :: (ds.tails.map (agreement cs)).tail := by
        cases ds <;> rfl
      rw [List.tails_cons, List.map_cons, htails, extendLengths, ← htails, ih]
      rfl

/-- The lengths are those of the agreement with each tail. -/
theorem commonLengths_eq (bs cs : List Char) :
    commonLengths bs cs = bs.tails.map (agreement cs) := by
  induction cs with
  | nil =>
      have hzero : ∀ n ∈ bs.tails.map (agreement []), n = 0 := by simp
      rw [List.eq_replicate_of_mem hzero, List.length_map, List.length_tails]
      rfl
  | cons c cs ih => rw [commonLengths, ih, extendLengths_eq]

theorem le_foldl_max {n a : Nat} {l : List Nat} :
    n ≤ l.foldl max a ↔ n ≤ a ∨ ∃ m ∈ l, n ≤ m := by
  induction l generalizing a with
  | nil => simp
  | cons m l ih =>
      rw [List.foldl_cons, ih, le_max_iff, List.exists_mem_cons_iff, or_assoc]

/-- A beginning of a list stands in another one as far as it agrees with one of its tails. -/
theorem infix_iff {r cs : List Char} (h : r <+: cs) (bs : List Char) :
    r <:+: bs ↔ r.length ≤ (commonLengths bs cs).foldl max 0 := by
  rw [List.infix_iff_prefix_suffix, le_foldl_max, commonLengths_eq]
  constructor
  · rintro ⟨t, hr, ht⟩
    exact .inr ⟨_, List.mem_map_of_mem ((List.mem_tails t bs).2 ht), (prefix_iff h t).1 hr⟩
  · rintro (hzero | ⟨m, hm, hr⟩)
    · rw [List.eq_nil_of_length_eq_zero (Nat.le_zero.1 hzero)]
      exact ⟨bs, List.nil_prefix, List.suffix_rfl⟩
    · obtain ⟨t, ht, rfl⟩ := List.mem_map.1 hm
      exact ⟨t, (prefix_iff h t).2 hr, (List.mem_tails t bs).1 ht⟩

theorem longest_le (cs bs : List Char) : (commonLengths bs cs).foldl max 0 ≤ cs.length := by
  rcases le_foldl_max.1 (Nat.le_refl ((commonLengths bs cs).foldl max 0)) with hzero | ⟨m, hm, hle⟩
  · omega
  · rw [commonLengths_eq] at hm
    obtain ⟨t, -, rfl⟩ := List.mem_map.1 hm
    exact hle.trans (agreement_le cs t).1

theorem longestCommonRun_cons (c : Char) (cs bs : List Char) :
    longestCommonRun (c :: cs) bs =
      if (longestCommonRun cs bs).length ≤ (commonLengths bs (c :: cs)).foldl max 0 then
        (c :: cs).take ((commonLengths bs (c :: cs)).foldl max 0)
      else longestCommonRun cs bs := by
  simp only [longestCommonRun, scanCommon, scanCommon_fst, commonLengths]
  rfl

/-! ### The run that is found -/

theorem isLongestCommon_longestCommonRun (cs bs : List Char) :
    IsLongestCommon cs bs (longestCommonRun cs bs) := by
  induction cs with
  | nil =>
      refine ⟨⟨List.nil_infix, List.nil_infix⟩, fun r hr _ => ?_, [], List.nil_prefix, ?_⟩
      · rw [List.infix_nil.1 hr]
        exact Nat.zero_le _
      · exact fun front' r _ _ _ => Nat.zero_le _
  | cons c cs ih =>
      have hlongest := longest_le (c :: cs) bs
      rw [longestCommonRun_cons]
      generalize hn : (commonLengths bs (c :: cs)).foldl max 0 = n at hlongest ⊢
      -- A run that stands at the head of the list, and one that stands behind it.
      have hhead : ∀ r, r <+: c :: cs → (r <:+: bs ↔ r.length ≤ n) := fun r hr =>
        hn ▸ infix_iff hr bs
      split
      · next hle =>
        have hlength : ((c :: cs).take n).length = n := List.length_take_of_le hlongest
        have hbegin : (c :: cs).take n <+: c :: cs := List.take_prefix n _
        refine ⟨⟨hbegin.isInfix, (hhead _ hbegin).2 hlength.le⟩, fun r hr hbs => ?_,
          [], hbegin, fun front' r _ _ _ => Nat.zero_le _⟩
        rw [hlength]
        rcases List.infix_cons_iff.1 hr with hr | hr
        · exact (hhead r hr).1 hbs
        · exact (ih.longest r hr hbs).trans hle
      · next hlt =>
        obtain ⟨front, hfront, hleast⟩ := ih.earliest
        refine ⟨⟨List.infix_cons_iff.2 (.inr ih.common.1), ih.common.2⟩, fun r hr hbs => ?_,
          c :: front, List.cons_prefix_cons.2 ⟨rfl, hfront⟩, fun front' r hr hbs hr' => ?_⟩
        · rcases List.infix_cons_iff.1 hr with hr | hr
          · exact ((hhead r hr).1 hbs).trans (Nat.le_of_not_le hlt)
          · exact ih.longest r hr hbs
        · cases front' with
          | nil =>
              have hshort := (hhead r hr).1 hbs
              omega
          | cons d front' =>
              exact Nat.succ_le_succ
                (hleast front' r (List.cons_prefix_cons.1 hr).2 hbs hr')

/-- Two texts share a run of some length where the longest one is as long. -/
theorem le_length_longestCommon_iff (s t : String) (n : Nat) :
    n ≤ (longestCommon s t).length ↔ ∃ run : List Char,
      n ≤ run.length ∧ run <:+: s.toList ∧ run <:+: t.toList := by
  have hspec := isLongestCommon_longestCommonRun s.toList t.toList
  rw [longestCommon, String.length_ofList]
  constructor
  · exact fun h => ⟨_, h, hspec.common⟩
  · rintro ⟨run, hle, hs, ht⟩
    exact hle.trans (hspec.longest run hs ht)

end Faultline.Text
