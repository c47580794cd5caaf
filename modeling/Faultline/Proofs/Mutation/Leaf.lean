import Faultline.Proofs.Json.Parsed
import Faultline.Proofs.Mutation.Walk
import Faultline.Proofs.Text.Numeral
import Faultline.Mutation.Fields

/-!
# What becomes of a leaf

The spaces that leaves select, and their results.  A numeral that was written is read as the
integer it stands for, so that every mutation of a leaf can be read back as a value of its type
(`type_restore`), and a leaf without mutations is given back as it is.
-/

namespace Faultline

/-- The types of values. -/
inductive JsonType where
  | null
  | boolean
  | number
  | string
  | array
  | object
  deriving DecidableEq

def Json.type : Json → JsonType
  | null => .null
  | bool _ => .boolean
  | int _ => .number
  | float _ => .number
  | str _ => .string
  | arr _ => .array
  | obj _ => .object

namespace Mutation

open Json

theorem intText_eq (i : Int) : intText i = String.ofList (intChars i) := by
  apply String.toList_injective
  unfold intText intChars
  split <;> simp

theorem le_negateInt (i : Int64) : -0x8000000000000000 ≤ negateInt i := by
  have := i.toInt_lt
  unfold negateInt
  split <;> omega

theorem negateInt_lt (i : Int64) : negateInt i < 0x8000000000000000 := by
  unfold negateInt
  split <;> omega

theorem leafInput_bool (b : Bool) : leafInput (.bool b) = Text.boolText b := by
  cases b <;> rfl

/-- The compact text of a signed integer is read as that integer. -/
theorem readInt64?_leafInput {n : Whole} {i : Int64} (h : n.toInt64? = some i) :
    Text.readInt64? (Text.trim (leafInput (.int n))) = some i := by
  obtain ⟨hn, rfl⟩ : n.val < 0x8000000000000000 ∧ Int64.ofInt n.val = i := by
    simpa [Whole.toInt64?] using h
  have htext : leafInput (.int n) = String.ofList (intChars n.val) := rfl
  rw [htext, Text.trim_intChars, Text.readInt64?_intChars n.lower hn]

theorem results_bool (b : Bool) :
    negatedBool.results (leafInput (.bool b)) = [Text.boolText (!b)] := by
  have hread := Text.readBool?_boolText b
  simp [leafInput_bool, Space.results, negatedBool, hread, List.range_one]

theorem results_int {n : Whole} {i : Int64} (h : n.toInt64? = some i) :
    negatedInt.results (leafInput (.int n)) = [intText (negateInt i)] := by
  simp [Space.results, negatedInt, readInt64?_leafInput h, List.range_one]

/-- The spaces that leaves select. -/
theorem leafSpace?_eq {j : Json} {m : Space String String} (h : leafSpace? j = some m) :
    (∃ b, j = .bool b ∧ m = negatedBool) ∨
      (∃ n i, j = .int n ∧ n.toInt64? = some i ∧ m = negatedInt) ∨
      ∃ s, j = .str s ∧ (m = negatedBool ∨ m = negatedInt ∨ m = shiftedChar) := by
  cases j with
  | bool b => exact .inl ⟨b, rfl, (Option.some.inj h).symm⟩
  | int n =>
      obtain ⟨hsome, rfl⟩ : n.toInt64?.isSome = true ∧ negatedInt = m := by
        simpa [leafSpace?] using h
      obtain ⟨i, hi⟩ := Option.isSome_iff_exists.1 hsome
      exact .inr (.inl ⟨n, i, rfl, hi, rfl⟩)
  | str s =>
      refine .inr (.inr ⟨s, rfl, ?_⟩)
      rw [leafSpace?] at h
      split at h <;> obtain rfl := Option.some.inj h <;> simp
  | null => cases h
  | float x => cases h
  | arr items => cases h
  | obj members => cases h

/-- A mutated leaf keeps its type. -/
theorem type_restore {j : Json} {m : Space String String} (h : leafSpace? j = some m) {r : String}
    (hr : r ∈ m.results (leafInput j)) : (restore j r).type = j.type := by
  rcases leafSpace?_eq h with ⟨b, rfl, rfl⟩ | ⟨n, i, rfl, hi, rfl⟩ | ⟨s, rfl, -⟩
  · rw [results_bool, List.mem_singleton] at hr
    rw [hr, restore, Text.readBool?_boolText]
    rfl
  · rw [results_int hi, List.mem_singleton] at hr
    rw [hr, intText_eq, restore, Text.readInt64?_intChars (le_negateInt i) (negateInt_lt i)]
    rfl
  · rfl

/-- What is restored from a result has the result for its text. -/
theorem leafInput_restore {j : Json} {m : Space String String} (h : leafSpace? j = some m)
    {r : String} (hr : r ∈ m.results (leafInput j)) : leafInput (restore j r) = r := by
  rcases leafSpace?_eq h with ⟨b, rfl, rfl⟩ | ⟨n, i, rfl, hi, rfl⟩ | ⟨s, rfl, -⟩
  · rw [results_bool, List.mem_singleton] at hr
    rw [hr, restore, Text.readBool?_boolText]
    exact leafInput_bool _
  · rw [results_int hi, List.mem_singleton] at hr
    rw [hr, intText_eq, restore, Text.readInt64?_intChars (le_negateInt i) (negateInt_lt i)]
    have hround : (Int64.ofInt (negateInt i)).toInt = negateInt i :=
      Int64.toInt_ofInt_of_le (le_negateInt i) (negateInt_lt i)
    exact congrArg (fun k => String.ofList (intChars k)) hround
  · rfl

/-- A leaf without mutations has one result, which leaves it as it is. -/
theorem restore_of_count_eq_zero {j : Json} {m : Space String String} (h : leafSpace? j = some m)
    (hzero : m.count (leafInput j) = 0) :
    m.results (leafInput j) = [leafInput j] ∧ restore j (leafInput j) = j := by
  rcases leafSpace?_eq h with ⟨b, rfl, rfl⟩ | ⟨n, i, rfl, hi, rfl⟩ | ⟨s, rfl, hm⟩
  · simp [negatedBool, leafInput_bool, Text.readBool?_boolText] at hzero
  · simp [negatedInt, readInt64?_leafInput hi] at hzero
  · refine ⟨?_, rfl⟩
    rw [Space.results_of_count_eq_zero hzero]
    rcases hm with rfl | rfl | rfl <;> rfl

/-- A leaf has at most as many mutations as its text has characters, or one. -/
theorem count_le {j : Json} {m : Space String String} (h : leafSpace? j = some m) {n : Nat}
    (hn : j.textsWithin n = true) : m.count (leafInput j) ≤ max 1 n := by
  rcases leafSpace?_eq h with ⟨b, rfl, rfl⟩ | ⟨k, i, rfl, hi, rfl⟩ | ⟨s, rfl, hm⟩
  · simp only [negatedBool, leafInput_bool, Text.readBool?_boolText]
    exact Nat.le_max_left 1 n
  · simp only [negatedInt, readInt64?_leafInput hi]
    exact Nat.le_max_left 1 n
  · have hs : s.length ≤ n := by simpa [textsWithin] using hn
    rcases hm with rfl | rfl | rfl
    · simp only [negatedBool]
      split <;> omega
    · simp only [negatedInt]
      split <;> omega
    · simp only [shiftedChar, leafInput]
      omega

end Mutation

end Faultline
