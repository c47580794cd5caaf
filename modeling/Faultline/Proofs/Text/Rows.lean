import Faultline.Proofs.Text.CommonRun

/-!
# A search by rows

The longest run of two texts by a table of two rows: a cell holds how long the run is that ends at
its two places, and the longest one met so far is kept with the place behind its end.  Every
look-up, every difference and the cut at the end can fail here.  `longestCommon_exact` states that
none does, and that the run found is the longest that both texts share, the first of its length in
the first text; so it is the one that `longestCommon` gives.
-/

namespace Faultline.Text

/-- The difference of two numbers, unless it is below zero. -/
def minus? (n k : Nat) : Option Nat :=
  if k ≤ n then some (n - k) else none

/-- A row with another number at a position, if it has one there. -/
def replaceAt? (row : List Nat) (j n : Nat) : Option (List Nat) :=
  if j < row.length then some (row.set j n) else none

/-- The characters between two positions, if there are such positions. -/
def slice? (cs : List Char) (start stop : Nat) : Option (List Char) :=
  if start ≤ stop ∧ stop ≤ cs.length then some ((cs.take stop).drop start) else none

/-- A search: the row at hand, and the longest run so far by its length and the place behind it. -/
structure Search where
  row : List Nat
  length : Nat
  stop : Nat

namespace Search

def start (bs : List Char) : Search :=
  ⟨List.replicate (bs.length + 1) 0, 0, 0⟩

/-- The cell for the characters before two places, from the row above. -/
def cell? (as bs : List Char) (above : List Nat) (i : Nat) (s : Search) (j : Nat) :
    Option Search := do
  let c ← as[← minus? i 1]?
  let d ← bs[← minus? j 1]?
  if c = d then
    let n := (← above[← minus? j 1]?) + 1
    let row ← replaceAt? s.row j n
    if s.length < n then return ⟨row, n, i⟩ else return { s with row }
  else return s

/-- The row for the character before a place. -/
def row? (as bs : List Char) (s : Search) (i : Nat) : Option Search :=
  (List.range' 1 bs.length).foldlM (cell? as bs s.row i)
    { s with row := List.replicate (bs.length + 1) 0 }

/-- The run that is found. -/
def run? (as bs : List Char) : Option (List Char) := do
  let s ← (List.range' 1 as.length).foldlM (row? as bs) (start bs)
  slice? as (← minus? s.stop s.length) s.stop

end Search

/-! ### Runs by their ends -/

/-- How long the run is that ends at a place of each list. -/
def ending (as bs : List Char) (i j : Nat) : Nat :=
  agreement (as.take i).reverse (bs.take j).reverse

section

variable {as bs : List Char} {i j k : Nat} {s : Search}

@[simp] theorem ending_zero_left (as bs : List Char) (j : Nat) : ending as bs 0 j = 0 := by
  simp [ending]

@[simp] theorem ending_zero_right (as bs : List Char) (i : Nat) : ending as bs i 0 = 0 := by
  simp [ending]

/-- Characters that are the same extend the run that ends before them. -/
theorem ending_succ {c d : Char} (hc : as[i]? = some c) (hd : bs[j]? = some d) :
    ending as bs (i + 1) (j + 1) = if c = d then ending as bs i j + 1 else 0 := by
  rw [ending, List.take_add_one, List.take_add_one, hc, hd, Option.toList_some, Option.toList_some,
    List.reverse_concat, List.reverse_concat, agreement_cons]
  rfl

theorem ending_le (as bs : List Char) (i j : Nat) : ending as bs i j ≤ i := by
  have hle := (agreement_le (as.take i).reverse (bs.take j).reverse).1
  rw [List.length_reverse, List.length_take] at hle
  exact hle.trans (Nat.min_le_left i as.length)

/-- A run of both lists ends at a place of each. -/
theorem exists_le_ending {front r : List Char} (has : front ++ r <+: as) (hbs : r <:+: bs) :
    ∃ j, j ≤ bs.length ∧ r.length ≤ ending as bs (front.length + r.length) j := by
  obtain ⟨t, hr, ht⟩ := List.infix_iff_suffix_prefix.1 hbs
  have hfront : as.take (front.length + r.length) = front ++ r := by
    rw [← List.length_append, ← List.prefix_iff_eq_take.1 has]
  have hleft : r.reverse <+: (front ++ r).reverse :=
    List.reverse_prefix.2 (List.suffix_append front r)
  have hlength : r.reverse.length = r.length := List.length_reverse
  refine ⟨t.length, ht.length_le, ?_⟩
  rw [ending, hfront, ← List.prefix_iff_eq_take.1 ht, ← hlength]
  exact (prefix_iff hleft _).1 (List.reverse_prefix.2 hr)

/-- The run that ends at a place of each list is one of both. -/
theorem drop_infix (hi : i ≤ as.length) (j : Nat) :
    ((as.take i).drop (i - ending as bs i j)) <:+: bs := by
  have hlength : (as.take i).length = i := List.length_take_of_le hi
  have hrun : ((as.take i).drop (i - ending as bs i j)).reverse =
      (as.take i).reverse.take (ending as bs i j) := by
    rw [List.take_reverse, hlength]
  have hends : (as.take i).reverse.take (ending as bs i j) <+: (bs.take j).reverse :=
    (prefix_iff (List.take_prefix _ _) _).2 (List.length_take_le _ _)
  rw [← hrun, List.reverse_prefix] at hends
  exact hends.isInfix.trans (List.take_prefix j bs).isInfix

/-! ### What the search has seen -/

/-- The cells behind which the search is, in the `k`-th cell of the `i`-th row. -/
def Done (bs : List Char) (i k i' j : Nat) : Prop :=
  j ≤ bs.length ∧ (i' < i ∨ i' = i ∧ j ≤ k)

/-- What a search knows: the cells of the row at hand, and the first of the longest runs that end
at one of the cells behind it. -/
structure Knows (as bs : List Char) (i k : Nat) (s : Search) : Prop where
  length_row : s.row.length = bs.length + 1
  cells : ∀ j ≤ bs.length, s.row[j]? = some (if j ≤ k then ending as bs i j else 0)
  reached : ∃ j, Done bs i k s.stop j ∧ ending as bs s.stop j = s.length
  longest : ∀ i' j, Done bs i k i' j → ending as bs i' j ≤ s.length
  first : ∀ i' j, Done bs i k i' j → ending as bs i' j = s.length → s.stop ≤ i'

theorem knows_start (as bs : List Char) : Knows as bs 0 bs.length (Search.start bs) := by
  have hzero : ∀ i' j, Done bs 0 bs.length i' j → i' = 0 := by
    rintro i' j ⟨-, hlt | ⟨rfl, -⟩⟩
    · cases hlt
    · rfl
  refine ⟨List.length_replicate, fun j hj => ?_, ⟨0, ⟨Nat.zero_le _, .inr ⟨rfl, Nat.zero_le _⟩⟩,
    ending_zero_left as bs 0⟩, fun i' j h => ?_, fun i' j _ _ => Nat.zero_le _⟩
  · rw [Search.start, List.getElem?_replicate_of_lt (Nat.lt_succ_of_le hj), ending_zero_left,
      ite_self]
  · rw [hzero i' j h, ending_zero_left]
    exact Nat.zero_le _

/-- A row starts with nothing but its first cell, where no run ends. -/
theorem Knows.nextRow (h : Knows as bs i bs.length s) :
    Knows as bs (i + 1) 0 { s with row := List.replicate (bs.length + 1) 0 } := by
  have hdone : ∀ {i' j}, Done bs (i + 1) 0 i' j →
      Done bs i bs.length i' j ∨ i' = i + 1 ∧ j = 0 := by
    rintro i' j ⟨hj, hlt | ⟨rfl, hzero⟩⟩
    · rcases Nat.lt_succ_iff_lt_or_eq.1 hlt with hlt | rfl
      · exact .inl ⟨hj, .inl hlt⟩
      · exact .inl ⟨hj, .inr ⟨rfl, hj⟩⟩
    · exact .inr ⟨rfl, Nat.le_zero.1 hzero⟩
  obtain ⟨j, ⟨hj, hstop⟩, hreached⟩ := h.reached
  have hle : s.stop ≤ i := by omega
  refine ⟨List.length_replicate, fun j hj => ?_, ⟨j, ⟨hj, .inl (Nat.lt_succ_of_le hle)⟩, hreached⟩,
    fun i' j hd => ?_, fun i' j hd hlength => ?_⟩
  · rw [List.getElem?_replicate_of_lt (Nat.lt_succ_of_le hj)]
    split
    · next hzero => rw [Nat.le_zero.1 hzero, ending_zero_right]
    · rfl
  · rcases hdone hd with hd | ⟨rfl, rfl⟩
    · exact h.longest i' j hd
    · rw [ending_zero_right]
      exact Nat.zero_le _
  · rcases hdone hd with hd | ⟨rfl, rfl⟩
    · exact h.first i' j hd hlength
    · exact Nat.le_succ_of_le hle

/-- A row is known one cell further if it has another number there and nowhere else. -/
theorem Knows.cells_succ (h : Knows as bs i k s) {row : List Nat}
    (hrow : ∀ j ≤ bs.length, row[j]? =
      if j = k + 1 then some (ending as bs i (k + 1)) else s.row[j]?) :
    ∀ j ≤ bs.length, row[j]? = some (if j ≤ k + 1 then ending as bs i j else 0) := by
  intro j hj
  rw [hrow j hj]
  rcases lt_trichotomy j (k + 1) with hlt | rfl | hlt
  · rw [if_neg hlt.ne, h.cells j hj, if_pos (Nat.le_of_lt_succ hlt), if_pos hlt.le]
  · rw [if_pos rfl, if_pos le_rfl]
  · rw [if_neg hlt.ne', h.cells j hj, if_neg (by omega), if_neg (by omega)]

/-- One more cell, with the length of the run that ends there. -/
theorem Knows.nextCell (h : Knows as bs i k s) (row : List Nat)
    (hlength : row.length = bs.length + 1)
    (hrow : ∀ j ≤ bs.length, row[j]? =
      if j = k + 1 then some (ending as bs i (k + 1)) else s.row[j]?) (hk : k < bs.length) :
    Knows as bs i (k + 1) (if s.length < ending as bs i (k + 1) then
      ⟨row, ending as bs i (k + 1), i⟩ else { s with row }) := by
  have hdone : ∀ {i' j}, Done bs i (k + 1) i' j → Done bs i k i' j ∨ i' = i ∧ j = k + 1 := by
    rintro i' j ⟨hj, hlt | ⟨rfl, hle⟩⟩
    · exact .inl ⟨hj, .inl hlt⟩
    · rcases Nat.le_succ_iff.1 hle with hle | rfl
      · exact .inl ⟨hj, .inr ⟨rfl, hle⟩⟩
      · exact .inr ⟨rfl, rfl⟩
  have hbefore : ∀ {i' j}, Done bs i k i' j → i' ≤ i := by
    rintro i' j ⟨-, hlt | ⟨rfl, -⟩⟩
    · exact hlt.le
    · exact le_rfl
  have hhere : Done bs i (k + 1) i (k + 1) := ⟨hk, .inr ⟨rfl, le_rfl⟩⟩
  obtain ⟨j, ⟨hj, hstop⟩, hreached⟩ := h.reached
  split
  · next hlt =>
    refine ⟨hlength, h.cells_succ hrow, ⟨k + 1, hhere, rfl⟩, fun i' j hd => ?_,
      fun i' j hd hsame => ?_⟩
    · rcases hdone hd with hd | ⟨rfl, rfl⟩
      · exact (h.longest i' j hd).trans hlt.le
      · exact le_rfl
    · rcases hdone hd with hd | ⟨rfl, rfl⟩
      · have hle := h.longest i' j hd
        simp only at hsame
        omega
      · exact le_rfl
  · next hle =>
    have hkept : Done bs i (k + 1) s.stop j :=
      ⟨hj, hstop.imp_right fun hrow => ⟨hrow.1, Nat.le_succ_of_le hrow.2⟩⟩
    refine ⟨hlength, h.cells_succ hrow, ⟨j, hkept, hreached⟩, fun i' j hd => ?_,
      fun i' j hd hsame => ?_⟩
    · rcases hdone hd with hd | ⟨rfl, rfl⟩
      · exact h.longest i' j hd
      · exact Nat.le_of_not_lt hle
    · rcases hdone hd with hd | ⟨rfl, rfl⟩
      · exact h.first i' j hd hsame
      · exact hbefore ⟨hj, hstop⟩

/-! ### Nothing fails -/

theorem minus?_eq {n k : Nat} (h : k ≤ n) : minus? n k = some (n - k) := if_pos h

/-- The cell of a row is filled from the finished row above. -/
theorem exists_cell?_eq (hi : i < as.length) {above : List Nat}
    (habove : ∀ j ≤ bs.length, above[j]? = some (ending as bs i j))
    (h : Knows as bs (i + 1) k s) (hk : k < bs.length) :
    ∃ s', Search.cell? as bs above (i + 1) s (k + 1) = some s' ∧
      Knows as bs (i + 1) (k + 1) s' := by
  have hc : as[i]? = some as[i] := List.getElem?_eq_getElem hi
  have hd : bs[k]? = some bs[k] := List.getElem?_eq_getElem hk
  have hending := ending_succ hc hd
  simp only [Search.cell?, minus?_eq (Nat.le_add_left 1 _), Nat.add_sub_cancel, hc, hd,
    habove k hk.le, Option.bind_eq_bind, Option.bind_some, Option.pure_def]
  by_cases hsame : as[i] = bs[k]
  · rw [if_pos hsame] at hending ⊢
    have hwrite : replaceAt? s.row (k + 1) (ending as bs i k + 1) =
        some (s.row.set (k + 1) (ending as bs i k + 1)) := by
      refine if_pos ?_
      rw [h.length_row]
      exact Nat.succ_lt_succ hk
    rw [hwrite, Option.bind_some, ← hending, ← apply_ite some]
    refine ⟨_, rfl, h.nextCell _ (by rw [List.length_set, h.length_row]) (fun j hj => ?_) hk⟩
    rw [List.getElem?_set, h.length_row, if_pos (Nat.succ_lt_succ hk)]
    exact if_congr eq_comm rfl rfl
  · rw [if_neg hsame] at hending ⊢
    refine ⟨s, rfl, ?_⟩
    have hnext := h.nextCell s.row h.length_row (fun j hj => ?_) hk
    · rwa [hending, if_neg (Nat.not_lt_zero _)] at hnext
    · split
      · next hj' => rw [hj', hending, h.cells (k + 1) hk, if_neg (Nat.not_succ_le_self k)]
      · rfl

/-- A loop over the places keeps what each of its steps keeps. -/
theorem exists_foldlM_eq {σ : Type} {f : σ → Nat → Option σ} {I : Nat → σ → Prop} {n : Nat}
    (hstep : ∀ k < n, ∀ s, I k s → ∃ s', f s (k + 1) = some s' ∧ I (k + 1) s') {s : σ}
    (hs : I 0 s) : ∃ s', (List.range' 1 n).foldlM f s = some s' ∧ I n s' := by
  induction n with
  | zero => exact ⟨s, rfl, hs⟩
  | succ n ih =>
      obtain ⟨s', hs', hinv⟩ := ih fun k hk => hstep k (Nat.lt_succ_of_lt hk)
      rw [List.range'_1_concat, List.foldlM_append, hs', Nat.add_comm 1 n]
      obtain ⟨s'', hs'', hinv'⟩ := hstep n (Nat.lt_succ_self n) s' hinv
      exact ⟨s'', by simp [hs''], hinv'⟩

theorem exists_row?_eq (hi : i < as.length) (h : Knows as bs i bs.length s) :
    ∃ s', Search.row? as bs s (i + 1) = some s' ∧ Knows as bs (i + 1) bs.length s' := by
  have habove : ∀ j ≤ bs.length, s.row[j]? = some (ending as bs i j) := fun j hj => by
    rw [h.cells j hj, if_pos hj]
  exact exists_foldlM_eq (I := fun k s => Knows as bs (i + 1) k s)
    (fun k hk s' hs' => exists_cell?_eq hi habove hs' hk) h.nextRow

/-- What a search finds that has seen all cells. -/
theorem Knows.isLongestCommon (h : Knows as bs as.length bs.length s) :
    IsLongestCommon as bs ((as.take s.stop).drop (s.stop - s.length)) := by
  obtain ⟨j, ⟨-, hstop⟩, hreached⟩ := h.reached
  have hle : s.stop ≤ as.length := by omega
  have hlength : ((as.take s.stop).drop (s.stop - s.length)).length = s.length := by
    have hend := ending_le as bs s.stop j
    rw [List.length_drop, List.length_take_of_le hle]
    omega
  have hseen : ∀ {front r : List Char}, front ++ r <+: as → r <:+: bs →
      ∃ j, Done bs as.length bs.length (front.length + r.length) j ∧
        r.length ≤ ending as bs (front.length + r.length) j := by
    intro front r has hbs
    obtain ⟨j, hj, hend⟩ := exists_le_ending has hbs
    have hplace : front.length + r.length ≤ as.length := by
      simpa using has.length_le
    exact ⟨j, ⟨hj, by omega⟩, hend⟩
  refine ⟨⟨?_, hreached ▸ drop_infix hle j⟩, fun r has hbs => ?_,
    (as.take s.stop).take (s.stop - s.length), ?_, fun front' r has hbs hr => ?_⟩
  · exact (List.drop_suffix _ _).isInfix.trans (List.take_prefix _ _).isInfix
  · obtain ⟨front, back, rfl⟩ := has
    obtain ⟨j, hd, hend⟩ := hseen (List.prefix_append (front ++ r) back) hbs
    rw [hlength]
    exact hend.trans (h.longest _ j hd)
  · rw [List.take_append_drop]
    exact List.take_prefix _ _
  · obtain ⟨j, hd, hend⟩ := hseen has hbs
    have hsame : ending as bs (front'.length + r.length) j = s.length :=
      Nat.le_antisymm (h.longest _ j hd) (hlength ▸ hr ▸ hend)
    have hfirst := h.first _ j hd hsame
    rw [List.length_take, List.length_take_of_le hle]
    omega

end

/-- The search never fails, and finds the run that `longestCommonRun` gives. -/
theorem Search.run?_eq (as bs : List Char) : run? as bs = some (longestCommonRun as bs) := by
  obtain ⟨s, hs, hknows⟩ := exists_foldlM_eq (f := row? as bs)
    (I := fun i s => Knows as bs i bs.length s) (n := as.length)
    (fun i hi s hs => exists_row?_eq hi hs) (knows_start as bs)
  obtain ⟨j, ⟨-, hstop⟩, hreached⟩ := hknows.reached
  have hlength : s.length ≤ s.stop := hreached ▸ ending_le as bs s.stop j
  have hslice : slice? as (s.stop - s.length) s.stop =
      some ((as.take s.stop).drop (s.stop - s.length)) :=
    if_pos ⟨Nat.sub_le _ _, by omega⟩
  rw [run?, hs]
  simp only [Option.bind_eq_bind, Option.bind_some, minus?_eq hlength, hslice]
  rw [hknows.isLongestCommon.unique (isLongestCommon_longestCommonRun as bs)]

/-- The longest common text of two texts stands in both, none that does is longer, and none of its
length starts earlier in the first one.  The search by rows finds it without a failing look-up or
difference. -/
theorem longestCommon_exact (s t : String) :
    IsLongestCommon s.toList t.toList (longestCommon s t).toList ∧
      Search.run? s.toList t.toList = some (longestCommon s t).toList := by
  rw [longestCommon, String.toList_ofList]
  exact ⟨isLongestCommon_longestCommonRun s.toList t.toList, Search.run?_eq s.toList t.toList⟩

end Faultline.Text
