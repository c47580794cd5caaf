import Faultline.Proofs.Mutation.Objects
import Faultline.Proofs.Mutation.Positions

/-!
# The values that a leaf is given

A leaf is the empty text, which has no mutation and is given back once as it is, or it has at least
one mutation, and its mutations are values that differ from each other and from its own
(`Leaf.values_cases`).  Which space a leaf selects depends on what its text spells, so that each
space is followed on the texts that select it.
-/

namespace Faultline

namespace Text

theorem isBlank_of_digitValue? {c : Char} {n : Nat} (h : digitValue? c = some n) :
    isBlank c = false := by
  unfold digitValue? at h
  split at h
  · next hrange =>
    refine isBlank_of_isDigit ?_
    simpa [Char.isDigit, Char.le_def, UInt32.le_iff_toNat_le] using hrange
  · cases h

theorem isBlank_of_digitsFrom {cs : List Char} {acc n : Nat} (h : digitsFrom acc cs = some n) :
    ∀ c ∈ cs, isBlank c = false := by
  induction cs generalizing acc with
  | nil => simp
  | cons c cs ih =>
      obtain ⟨d, hd, h⟩ := Option.bind_eq_some_iff.1 h
      exact List.forall_mem_cons.2 ⟨isBlank_of_digitValue? hd, ih h⟩

theorem isBlank_of_digits? {cs : List Char} {n : Nat} (h : digits? cs = some n) :
    ∀ c ∈ cs, isBlank c = false := by
  cases cs with
  | nil => cases h
  | cons c cs => exact isBlank_of_digitsFrom h

/-- There is no blank in the text of an integer. -/
theorem isBlank_of_readInt64? {s : String} {i : Int64} (h : readInt64? s = some i) :
    ∀ c ∈ s.toList, isBlank c = false := by
  simp only [readInt64?, Option.bind_eq_bind] at h
  split at h
  · next r hr =>
    obtain ⟨_, hsigned, -⟩ := Option.bind_eq_some_iff.1 h
    obtain ⟨k, hk, -⟩ := Option.map_eq_some_iff.1 hsigned
    rw [hr]
    exact List.forall_mem_cons.2 ⟨by decide, isBlank_of_digits? hk⟩
  · next r hr =>
    obtain ⟨_, hsigned, -⟩ := Option.bind_eq_some_iff.1 h
    obtain ⟨_, hread, -⟩ := Option.map_eq_some_iff.1 hsigned
    obtain ⟨k, hk, -⟩ := Option.bind_eq_some_iff.1 hread
    rw [hr]
    exact List.forall_mem_cons.2 ⟨by decide, isBlank_of_digits? hk⟩
  · obtain ⟨_, hsigned, -⟩ := Option.bind_eq_some_iff.1 h
    obtain ⟨k, hk, -⟩ := Option.map_eq_some_iff.1 hsigned
    exact isBlank_of_digits? hk

theorem trim_of_readInt64? {s : String} {i : Int64} (h : readInt64? s = some i) : trim s = s := by
  have hblank := isBlank_of_readInt64? h
  rw [trim, trimChars_eq_self (fun c hc => hblank c (List.mem_of_mem_head? hc))
    (fun c hc => hblank c (List.mem_of_mem_getLast? hc)), String.ofList_toList]

end Text

namespace Mutation

open Json

/-- The number of a leaf's mutations. -/
def Leaf.size (l : Leaf) : Nat :=
  ((leafSpace? l.value).map fun m => m.count (leafInput l.value)).getD 0

/-- The values that a leaf is given one after the other. -/
def Leaf.values (l : Leaf) : List Json :=
  l.results.map (restore l.value)

/-- What a value is replaced with: itself once where it is the empty text, or else as many other
values as it has mutations. -/
inductive Given (old : Json) : Nat → List Json → Prop
  | idle (h : old = .str "") : Given old 0 [old]
  | fresh {n : Nat} {vs : List Json} (hold : old ≠ .str "") (hn : 0 < n) (length : vs.length = n)
      (different : vs.Nodup) (other : old ∉ vs) : Given old n vs

theorem Given.single {old v : Json} (hold : old ≠ .str "") (hv : v ≠ old) : Given old 1 [v] :=
  .fresh hold Nat.one_pos rfl (List.nodup_singleton v)
    fun hmem => hv (List.mem_singleton.1 hmem).symm

/-! ### Truth values and integers -/

theorem given_bool (b : Bool) :
    Given (.bool b) (negatedBool.count (leafInput (.bool b)))
      ((negatedBool.results (leafInput (.bool b))).map (restore (.bool b))) := by
  have hcount : negatedBool.count (leafInput (.bool b)) = 1 := by
    simp [negatedBool, leafInput_bool, Text.readBool?_boolText]
  rw [hcount, results_bool, List.map_singleton, restore, Text.readBool?_boolText]
  refine .single Json.noConfusion fun hsame => ?_
  cases b <;> cases hsame

theorem negateInt_ne (i : Int64) : negateInt i ≠ i.toInt := by
  have hlower := i.le_toInt
  unfold negateInt
  split <;> omega

theorem toInt_ofInt_negateInt (i : Int64) : (Int64.ofInt (negateInt i)).toInt = negateInt i :=
  Int64.toInt_ofInt_of_le (by simpa using le_negateInt i) (by simpa using negateInt_lt i)

/-- A negated integer is another one. -/
theorem ofInt_negateInt_ne (i : Int64) : Int64.ofInt (negateInt i) ≠ i := by
  intro hsame
  have hvalue := toInt_ofInt_negateInt i
  rw [hsame] at hvalue
  exact negateInt_ne i hvalue.symm

theorem readInt64?_intText (i : Int64) :
    Text.readInt64? (intText (negateInt i)) = some (Int64.ofInt (negateInt i)) := by
  rw [intText_eq, Text.readInt64?_intChars (le_negateInt i) (negateInt_lt i)]

theorem given_int {n : Whole} {i : Int64} (h : n.toInt64? = some i) :
    Given (.int n) (negatedInt.count (leafInput (.int n)))
      ((negatedInt.results (leafInput (.int n))).map (restore (.int n))) := by
  have hcount : negatedInt.count (leafInput (.int n)) = 1 := by
    simp [negatedInt, readInt64?_leafInput h]
  rw [hcount, results_int h, List.map_singleton, restore, readInt64?_intText]
  refine .single Json.noConfusion fun hsame => ?_
  have hread : some (Int64.ofInt (negateInt i)) = some i := by
    rw [← Json.int64?_ofInt64, ← h]
    exact congrArg Json.int64? hsame
  exact ofInt_negateInt_ne i (Option.some.inj hread)

/-! ### Texts -/

/-- The space that a text selects is the one for what it spells. -/
theorem leafSpace?_str {s : String} {m : Space String String}
    (h : leafSpace? (.str s) = some m) :
    (∃ b, s = Text.boolText b ∧ m = negatedBool) ∨
      (∃ i, Text.readInt64? s = some i ∧ m = negatedInt) ∨ m = shiftedChar := by
  simp only [leafSpace?, PayloadKind.ofText] at h
  split at h
  · next hkind =>
    split at hkind
    · next hbool =>
      obtain ⟨b, hb⟩ := Option.isSome_iff_exists.1 hbool
      exact .inl ⟨b, Text.readBool?_eq_some_iff.1 hb, (Option.some.inj h).symm⟩
    · split at hkind
      · cases hkind
      · split at hkind <;> cases hkind
  · next hkind =>
    split at hkind
    · cases hkind
    · split at hkind
      · next hint =>
        obtain ⟨i, hi⟩ := Option.isSome_iff_exists.1 hint
        exact .inr (.inl ⟨i, hi, (Option.some.inj h).symm⟩)
      · split at hkind <;> cases hkind
  · exact .inr (.inr (Option.some.inj h).symm)

theorem given_boolText (b : Bool) :
    Given (.str (Text.boolText b)) (negatedBool.count (Text.boolText b))
      ((negatedBool.results (Text.boolText b)).map .str) := by
  have hcount : negatedBool.count (Text.boolText b) = 1 := by
    simp [negatedBool, Text.readBool?_boolText]
  have hresults := results_bool b
  rw [leafInput_bool] at hresults
  rw [hcount, hresults, List.map_singleton]
  refine .single (fun hsame => ?_) fun hsame => ?_
  · cases b <;> exact absurd (Json.str.inj hsame) (by decide)
  · cases b <;> exact absurd (Json.str.inj hsame) (by decide)

theorem given_intText {s : String} {i : Int64} (h : Text.readInt64? s = some i) :
    Given (.str s) (negatedInt.count s) ((negatedInt.results s).map .str) := by
  have htrim := Text.trim_of_readInt64? h
  have hcount : negatedInt.count s = 1 := by simp [negatedInt, htrim, h]
  have hresults : negatedInt.results s = [intText (negateInt i)] := by
    simp [Space.results, negatedInt, htrim, h, List.range_one]
  rw [hcount, hresults, List.map_singleton]
  refine .single (fun hsame => ?_) fun hsame => ?_
  · rw [Json.str.inj hsame] at h
    cases h
  · have hread := readInt64?_intText i
    rw [Json.str.inj hsame, h] at hread
    exact ofInt_negateInt_ne i (Option.some.inj hread).symm

theorem given_shifted (s : String) :
    Given (.str s) (shiftedChar.count s) ((shiftedChar.results s).map .str) := by
  have hcount := positional_shiftedChar.count s
  by_cases hs : s.toList = []
  · obtain rfl : s = "" := String.toList_eq_nil_iff.1 hs
    rw [positional_shiftedChar.results_eq_self hs]
    exact .idle rfl
  · have hlength := List.length_pos_iff.2 hs
    refine .fresh (fun hsame => hs (by rw [Json.str.inj hsame]; rfl)) (by omega) ?_ ?_ ?_
    · rw [List.length_map, positional_shiftedChar.results_eq hs, List.length_map, List.length_range,
        hcount]
    · exact (positional_shiftedChar.nodup_results s).map fun _ _ => Json.str.inj
    · intro hmem
      obtain ⟨r, hr, hsame⟩ := List.mem_map.1 hmem
      obtain rfl := Json.str.inj hsame
      obtain ⟨i, hi⟩ := List.mem_iff_getElem?.1 hr
      obtain ⟨hlt, hmutate⟩ := positional_shiftedChar.eq_mutate hs hi
      have hdiffers := (positional_shiftedChar.onlyAt_mutate hlt i).2 rfl
      rw [← hmutate] at hdiffers
      exact hdiffers rfl

/-! ### Leaves -/

theorem scalar_of_leafSpace? {j : Json} (h : (leafSpace? j).isSome = true) :
    j.Plain ∧ j.depth = 0 := by
  cases j with
  | bool b => exact ⟨⟨rfl, rfl⟩, rfl⟩
  | int n => exact ⟨⟨rfl, rfl⟩, rfl⟩
  | str s => exact ⟨⟨rfl, rfl⟩, rfl⟩
  | null | float | arr | obj => cases h

theorem scalar_restore (j : Json) (r : String) :
    (restore j r).Plain ∧ (restore j r).depth = 0 := by
  cases j with
  | bool b => cases h : Text.readBool? r <;> simp only [restore, h] <;> exact ⟨⟨rfl, rfl⟩, rfl⟩
  | int n => cases h : Text.readInt64? r <;> simp only [restore, h] <;> exact ⟨⟨rfl, rfl⟩, rfl⟩
  | null | float | str | arr | obj => exact ⟨⟨rfl, rfl⟩, rfl⟩

namespace Leaf

variable {l : Leaf}

/-- The values that a leaf is given are as many as it has mutations, and none of them is its own,
unless it is the empty text. -/
theorem given (h : (leafSpace? l.value).isSome = true) : Given l.value l.size l.values := by
  obtain ⟨path, value⟩ := l
  obtain ⟨m, hm⟩ := Option.isSome_iff_exists.1 h
  simp only at hm
  simp only [size, values, results, hm, Option.map_some, Option.getD_some]
  rcases leafSpace?_eq hm with ⟨b, rfl, rfl⟩ | ⟨n, i, rfl, hi, rfl⟩ | ⟨s, rfl, -⟩
  · exact given_bool b
  · exact given_int hi
  · rcases leafSpace?_str hm with ⟨b, rfl, rfl⟩ | ⟨i, hi, rfl⟩ | rfl
    · exact given_boolText b
    · exact given_intText hi
    · exact given_shifted s

theorem size_eq_zero_iff (h : (leafSpace? l.value).isSome = true) :
    l.size = 0 ↔ l.value = .str "" := by
  have hgiven := given h
  generalize l.size = n, l.values = vs at hgiven ⊢
  cases hgiven with
  | idle hold => exact ⟨fun _ => hold, fun _ => rfl⟩
  | fresh hold hn => exact ⟨fun hzero => by omega, fun hsame => absurd hsame hold⟩

/-- A leaf has no parts, and neither has what it is given. -/
theorem scalar (h : (leafSpace? l.value).isSome = true) :
    ∀ v ∈ l.value :: l.values, v.Plain ∧ v.depth = 0 := by
  refine List.forall_mem_cons.2 ⟨scalar_of_leafSpace? h, fun v hv => ?_⟩
  obtain ⟨r, -, rfl⟩ := List.mem_map.1 hv
  exact scalar_restore l.value r

end Leaf

end Mutation

end Faultline
