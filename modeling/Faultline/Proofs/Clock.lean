import Faultline.Clock
import Faultline.Proofs.Json.RoundTrip
import Mathlib.Data.List.Induction

/-!
# The order of clocks

A clock is determined by the services that it has a counter for, be it zero, and by the counters
(`ext_get`), while the order of clocks only sees the counters (`descends_iff`).  A merge has the
services of both clocks and the larger counters, and `merge_least_upper_bound` states what follows
from that.  The text of a clock is read as that clock (`parse_text`).
-/

namespace Faultline

namespace Clock

/-- Whether there is a counter for a service. -/
def has (c : Clock) (service : String) : Bool :=
  (c.counters.get? service).isSome

theorem ext_get {c d : Clock} (hhas : ∀ s, c.has s = d.has s) (hget : ∀ s, c.get s = d.get s) :
    c = d := by
  have hcounters : c.counters = d.counters := by
    refine Table.ext fun s => ?_
    have hs := hhas s
    have hn := hget s
    unfold has at hs
    unfold get at hn
    cases hc : c.counters.get? s <;> cases hd : d.counters.get? s <;> simp_all
  cases c
  cases d
  exact congrArg mk hcounters

/-! ### Merges -/

theorem has_raise (c : Clock) (s t : String) (n : UInt64) :
    (c.raise s n).has t = (c.has t || t == s) := by
  unfold has raise
  rw [Table.get?_insert]
  by_cases h : t = s <;> simp [h]

theorem toNat_get_raise (c : Clock) (s t : String) (n : UInt64) :
    ((c.raise s n).get t).toNat = if t = s then max (c.get t).toNat n.toNat
      else (c.get t).toNat := by
  rw [get_raise]
  by_cases h : t = s
  · subst h
    rw [if_pos rfl, if_pos rfl]
    by_cases hlt : c.get t < n
    · rw [if_pos hlt]
      have := UInt64.lt_iff_toNat_lt.1 hlt
      omega
    · rw [if_neg hlt]
      have := mt UInt64.lt_iff_toNat_lt.2 hlt
      omega
  · rw [if_neg h, if_neg h]

/-- Counters raised one after the other; in key order every service comes at most once. -/
theorem foldl_raise {l : List (String × UInt64)} (hl : Entries.Sorted l) (c : Clock) (s : String) :
    let m := l.foldl (fun m e => m.raise e.1 e.2) c
    m.has s = (c.has s || (Entries.find? s l).isSome) ∧
      (m.get s).toNat = max (c.get s).toNat ((Entries.find? s l).getD 0).toNat := by
  induction l generalizing c with
  | nil => simp [Entries.find?]
  | cons e l ih =>
      obtain ⟨t, n⟩ := e
      obtain ⟨hlt, hl⟩ := List.pairwise_cons.1 hl
      obtain ⟨hhas, hget⟩ := ih hl (c.raise t n)
      rw [has_raise] at hhas
      rw [toNat_get_raise] at hget
      rw [List.foldl_cons, Entries.find?]
      by_cases h : s = t
      · subst h
        rw [Table.find?_eq_none_of_lt hlt] at hhas hget
        simpa using And.intro hhas hget
      · simpa [h, beq_false_of_ne h] using And.intro hhas hget

theorem has_merge (c d : Clock) (s : String) : (c.merge d).has s = (c.has s || d.has s) :=
  (foldl_raise d.counters.sorted c s).1

theorem toNat_get_merge (c d : Clock) (s : String) :
    ((c.merge d).get s).toNat = max (c.get s).toNat (d.get s).toNat :=
  (foldl_raise d.counters.sorted c s).2

theorem get_merge_le_iff {c d : Clock} {s : String} {n : UInt64} :
    (c.merge d).get s ≤ n ↔ c.get s ≤ n ∧ d.get s ≤ n := by
  simp only [UInt64.le_iff_toNat_le, toNat_get_merge]
  omega

theorem merge_comm (c d : Clock) : c.merge d = d.merge c := by
  refine ext_get (fun s => ?_) fun s => UInt64.toNat_inj.1 ?_
  · rw [has_merge, has_merge, Bool.or_comm]
  · rw [toNat_get_merge, toNat_get_merge, Nat.max_comm]

theorem merge_assoc (c d e : Clock) : (c.merge d).merge e = c.merge (d.merge e) := by
  refine ext_get (fun s => ?_) fun s => UInt64.toNat_inj.1 ?_
  · simp only [has_merge, Bool.or_assoc]
  · simp only [toNat_get_merge, Nat.max_assoc]

theorem merge_self (c : Clock) : c.merge c = c := by
  refine ext_get (fun s => ?_) fun s => UInt64.toNat_inj.1 ?_
  · rw [has_merge, Bool.or_self]
  · rw [toNat_get_merge, Nat.max_self]

theorem merge_empty (c : Clock) : c.merge empty = c := rfl

theorem empty_merge (c : Clock) : empty.merge c = c := by
  rw [merge_comm, merge_empty]

/-! ### The order -/

/-- A missing counter is as good as zero. -/
theorem forall_get_iff {c : Clock} {p : String → UInt64 → Prop} (hzero : ∀ s, p s 0) :
    (∀ s, p s (c.get s)) ↔ ∀ e ∈ c.toList, p e.1 e.2 := by
  constructor
  · rintro h ⟨s, n⟩ he
    have hn : c.get s = n := by rw [get, Table.mem_toList_iff.1 he, Option.getD_some]
    exact hn ▸ h s
  · intro h s
    unfold get
    cases hc : c.counters.get? s with
    | none => exact hzero s
    | some n => exact h (s, n) (Table.mem_toList_iff.2 hc)

theorem descends_iff {c d : Clock} : c.descends d = true ↔ ∀ s, d.get s ≤ c.get s := by
  simp only [descends, List.all_eq_true, decide_eq_true_eq]
  exact (forall_get_iff (p := fun s n => n ≤ c.get s) fun _ => UInt64.zero_le).symm

theorem descends_refl (c : Clock) : c.descends c = true :=
  descends_iff.2 fun _ => UInt64.le_refl _

theorem descends_trans {c d e : Clock} (hcd : c.descends d = true) (hde : d.descends e = true) :
    c.descends e = true :=
  descends_iff.2 fun s => UInt64.le_trans (descends_iff.1 hde s) (descends_iff.1 hcd s)

theorem descends_merge_iff {c d e : Clock} :
    e.descends (c.merge d) = true ↔ e.descends c = true ∧ e.descends d = true := by
  simp only [descends_iff, get_merge_le_iff, forall_and]

theorem compare_eq_before_iff {c d : Clock} :
    c.compare d = .before ↔ d.descends c = true ∧ c.descends d = false := by
  unfold compare
  cases d.descends c <;> cases c.descends d <;> decide

/-! ### Many clocks -/

theorem mergeAll_concat (cs : List Clock) (c : Clock) :
    mergeAll (cs ++ [c]) = (mergeAll cs).merge c := by
  rw [mergeAll, List.foldl_append]
  rfl

theorem has_mergeAll {cs : List Clock} {s : String} :
    (mergeAll cs).has s = true ↔ ∃ c ∈ cs, c.has s = true := by
  induction cs using List.reverseRecOn with
  | nil => simp [mergeAll, has, empty]
  | append_singleton cs c ih => simp [mergeAll_concat, has_merge, ih, or_and_right, exists_or]

theorem get_mergeAll_le_iff {cs : List Clock} {s : String} {n : UInt64} :
    (mergeAll cs).get s ≤ n ↔ ∀ c ∈ cs, c.get s ≤ n := by
  induction cs using List.reverseRecOn with
  | nil => simp [mergeAll]
  | append_singleton cs c ih =>
      simp [mergeAll_concat, get_merge_le_iff, ih, or_imp, forall_and]

theorem descends_mergeAll_iff {cs : List Clock} {c : Clock} :
    c.descends (mergeAll cs) = true ↔ ∀ d ∈ cs, c.descends d = true := by
  simp only [descends_iff, get_mergeAll_le_iff]
  exact ⟨fun h d hd s => h s d hd, fun h s d hd => h d hd s⟩

/-- Only which clocks there are matters, not their order or how often they come. -/
theorem mergeAll_congr {cs ds : List Clock} (h : ∀ c, c ∈ cs ↔ c ∈ ds) :
    mergeAll cs = mergeAll ds := by
  refine ext_get (fun s => ?_) fun s => ?_
  · rw [Bool.eq_iff_iff, has_mergeAll, has_mergeAll]
    simp only [h]
  · have hle : ∀ n, (mergeAll cs).get s ≤ n ↔ (mergeAll ds).get s ≤ n := fun n => by
      simp only [get_mergeAll_le_iff, h]
    exact UInt64.le_antisymm ((hle _).2 (UInt64.le_refl _)) ((hle _).1 (UInt64.le_refl _))

/-- The merge of clocks is their least upper bound. -/
theorem merge_least_upper_bound (a b c : Clock) :
    a.merge b = b.merge a ∧ (a.merge b).merge c = a.merge (b.merge c) ∧ a.merge a = a ∧
      a.merge empty = a ∧ empty.merge a = a ∧
      (c.descends (a.merge b) = true ↔ c.descends a = true ∧ c.descends b = true) ∧
      (∀ cs ds, (∀ d, d ∈ cs ↔ d ∈ ds) → mergeAll cs = mergeAll ds) ∧
      ∀ cs, (∀ d ∈ cs, (mergeAll cs).descends d = true) ∧
        (c.descends (mergeAll cs) = true ↔ ∀ d ∈ cs, c.descends d = true) :=
  ⟨merge_comm a b, merge_assoc a b c, merge_self a, merge_empty a, empty_merge a,
    descends_merge_iff, fun _ _ => mergeAll_congr,
    fun _ => ⟨descends_mergeAll_iff.1 (descends_refl _), descends_mergeAll_iff⟩⟩

/-- Two clocks with an explicit zero between them, merged in two orders and with a repetition. -/
theorem merge_least_upper_bound_repeated :
    let a := ofList [("a", 2), ("z", 0)]
    let b := ofList [("a", 1), ("b", 3)]
    (∀ d, d ∈ [a, b] ↔ d ∈ [b, a, b]) ∧ mergeAll [a, b] = mergeAll [b, a, b] ∧
      (mergeAll [a, b]).toList = [("a", 2), ("b", 3), ("z", 0)] ∧
      (mergeAll [a, b]).descends a = true := by
  intro a b
  have hsame : ∀ d, d ∈ [a, b] ↔ d ∈ [b, a, b] := by
    intro d
    simp only [List.mem_cons, List.not_mem_nil, or_false]
    tauto
  obtain ⟨-, -, -, -, -, -, hall, habove⟩ := merge_least_upper_bound a b .empty
  exact ⟨hsame, hall _ _ hsame, by decide, (habove _).1 a List.mem_cons_self⟩

/-! ### Ticks -/

theorem toNat_bump (n : UInt64) : (bump n).toNat = min (n.toNat + 1) (UInt64.size - 1) := by
  have hbound := n.toNat_lt_size
  unfold bump
  by_cases h : n = 0xFFFFFFFFFFFFFFFF
  · subst h
    rfl
  · have hne : n.toNat ≠ UInt64.size - 1 := fun heq => h (UInt64.toNat_inj.1 heq)
    rw [if_neg h, UInt64.toNat_add]
    simp only [UInt64.size, UInt64.toNat_one] at hbound hne ⊢
    omega

theorem descends_tick (c : Clock) (s : String) : (c.tick s).descends c = true := by
  refine descends_iff.2 fun t => ?_
  rw [get_tick]
  by_cases h : t = s
  · subst h
    have hbound := (c.get t).toNat_lt_size
    rw [if_pos rfl, UInt64.le_iff_toNat_le, toNat_bump]
    omega
  · rw [if_neg h]
    exact UInt64.le_refl _

/-- A tick that does not fill the counter raises it. -/
theorem lt_get_tick {c : Clock} {s : String} (h : (c.tick s).get s ≠ 0xFFFFFFFFFFFFFFFF) :
    c.get s < (c.tick s).get s := by
  have hfull : ((c.tick s).get s).toNat ≠ UInt64.size - 1 := fun heq => h (UInt64.toNat_inj.1 heq)
  rw [get_tick, if_pos rfl] at hfull ⊢
  rw [UInt64.lt_iff_toNat_lt]
  rw [toNat_bump] at hfull ⊢
  omega

/-- A clock that is later than another, unless one of its counters is full. -/
def Outruns (c d : Clock) : Prop :=
  c.descends d = true ∧ ∃ s, d.get s < c.get s ∨ c.get s = 0xFFFFFFFFFFFFFFFF

theorem outruns_tick (c : Clock) (s : String) : (c.tick s).Outruns c := by
  refine ⟨descends_tick c s, s, ?_⟩
  by_cases hfull : (c.tick s).get s = 0xFFFFFFFFFFFFFFFF
  · exact .inr hfull
  · exact .inl (lt_get_tick hfull)

theorem Outruns.of_descends {c d e : Clock} (h : c.Outruns d) (hde : d.descends e = true) :
    c.Outruns e := by
  obtain ⟨hcd, s, hlt | hfull⟩ := h
  · refine ⟨descends_trans hcd hde, s, .inl ?_⟩
    have hlt := UInt64.lt_iff_toNat_lt.1 hlt
    have hle := UInt64.le_iff_toNat_le.1 (descends_iff.1 hde s)
    exact UInt64.lt_iff_toNat_lt.2 (by omega)
  · exact ⟨descends_trans hcd hde, s, .inr hfull⟩

/-- A merge and a tick: later than both. -/
theorem outruns_tick_merge (c d : Clock) (s : String) :
    ((c.merge d).tick s).Outruns c ∧ ((c.merge d).tick s).Outruns d := by
  have htick := outruns_tick (c.merge d) s
  have hmerge := descends_merge_iff.1 (descends_refl (c.merge d))
  exact ⟨htick.of_descends hmerge.1, htick.of_descends hmerge.2⟩

theorem Outruns.compare_eq {c d : Clock} (h : c.Outruns d)
    (hroom : ∀ s, c.get s ≠ 0xFFFFFFFFFFFFFFFF) : d.compare c = .before := by
  obtain ⟨hle, s, hlt | hfull⟩ := h
  · refine compare_eq_before_iff.2 ⟨hle, Bool.eq_false_iff.2 fun hge => ?_⟩
    have hlt := UInt64.lt_iff_toNat_lt.1 hlt
    have hge := UInt64.le_iff_toNat_le.1 (descends_iff.1 hge s)
    omega
  · exact absurd hfull (hroom s)

theorem compare_before_trans {c d e : Clock} (hcd : c.compare d = .before)
    (hde : d.compare e = .before) : c.compare e = .before := by
  rw [compare_eq_before_iff] at hcd hde ⊢
  refine ⟨descends_trans hde.1 hcd.1, Bool.eq_false_iff.2 fun hce => ?_⟩
  exact Bool.eq_false_iff.1 hcd.2 (descends_trans hce hde.1)

/-! ### Texts -/

/-- The counters of a clock as the members of its document. -/
theorem mapM_member_ofMembers (l : List (String × UInt64)) :
    (Document.ofMembers (l.map fun e => (e.1, .ofUInt64 e.2))).mapM
      (Document.member? Document.uint64?) = some l := by
  induction l with
  | nil => rfl
  | cons e l ih =>
      have hcount : Document.uint64? (.ofJson (.ofUInt64 e.2)) = some e.2 :=
        Json.uint64?_ofUInt64 e.2
      simp [Document.ofMembers, Document.member?, hcount, ih]

theorem floatFree_toJson (c : Clock) : c.toJson.floatFree = true := by
  refine Json.floatFreeMembers_iff.2 fun m hm => ?_
  obtain ⟨e, -, rfl⟩ := List.mem_map.1 hm
  rfl

theorem parse?_text (c : Clock) : parse? c.text = some c := by
  have hentries : Document.map? Document.uint64? (.ofJson c.toJson) = some c.toList := by
    simp only [toJson, Document.ofJson, Document.map?, mapM_member_ofMembers, Option.map_some]
    exact congrArg some (Entries.ofPairs_of_sorted c.counters.sorted)
  rw [parse?, text, Document.parse?_compact c.floatFree_toJson, Option.bind_some, ofDocument?,
    hentries]
  exact congrArg (fun t => some (mk t)) (Table.ofList_toList c.counters)

/-- The text of a clock is read as that clock. -/
theorem parse_text (c : Clock) : parse c.text = c := by
  rw [parse, parse?_text, Option.getD_some]

/-- Clocks with the same text are the same. -/
theorem text_inj {c d : Clock} : c.text = d.text ↔ c = d := by
  constructor
  · intro h
    have hparse := parse_text c
    rwa [h, parse_text, eq_comm] at hparse
  · rintro rfl
    rfl

end Clock

end Faultline
