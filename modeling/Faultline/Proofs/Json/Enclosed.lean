import Faultline.Proofs.Json.Balance

/-!
# Texts in brackets

The compact text of an array or an object does not end in that of another one, whatever stands in
front of either (`Enclosed.append_chars_inj`).  Behind its first character and in front of its last
one a bracket is open everywhere (`Place.Stays`), so that a text which begins there either closes no
more than it opens or is read between quotes.
-/

namespace Faultline.Json

namespace Place

/-- At least `n` brackets are open, unless the reader is lost. -/
def AtLeast (n : Nat) : Place → Prop
  | outside m | inside m | escaped m => n ≤ m
  | lost => True

/-- At least `n` brackets are open in front of every character of a text. -/
def Stays (n : Nat) : Place → List Char → Prop
  | _, [] => True
  | p, c :: cs => p.AtLeast n ∧ Stays n (p.next c) cs

variable {n : Nat} {p : Place}

@[simp] theorem stays_nil : Stays n p [] := trivial

@[simp] theorem stays_cons {c : Char} {cs : List Char} :
    Stays n p (c :: cs) ↔ p.AtLeast n ∧ Stays n (p.next c) cs :=
  Iff.rfl

theorem stays_append {cs ds : List Char} :
    Stays n p (cs ++ ds) ↔ Stays n p cs ∧ Stays n (p.follow cs) ds := by
  induction cs generalizing p with
  | nil => simp
  | cons c cs ih => rw [List.cons_append, stays_cons, stays_cons, ih, and_assoc, follow_cons]

theorem AtLeast.of_succ (h : p.AtLeast (n + 1)) : p.AtLeast n := by
  cases p with
  | outside | inside | escaped => exact Nat.le_of_succ_le h
  | lost => trivial

theorem Stays.of_succ {cs : List Char} (h : Stays (n + 1) p cs) : Stays n p cs := by
  induction cs generalizing p with
  | nil => trivial
  | cons c cs ih => exact ⟨h.1.of_succ, ih h.2⟩

end Place

open Place Document

theorem stays_of_neutral {cs : List Char} (h : cs.all isNeutral = true) (n : Nat) :
    Stays n (outside n) cs ∧ Stays n (inside n) cs := by
  induction cs with
  | nil => exact ⟨trivial, trivial⟩
  | cons c cs ih =>
      rw [List.all_cons, Bool.and_eq_true] at h
      obtain ⟨houtside, hinside⟩ := next_of_isNeutral h.1 n
      rw [stays_cons, stays_cons, houtside, hinside]
      exact ⟨⟨Nat.le_refl n, (ih h.2).1⟩, Nat.le_refl n, (ih h.2).2⟩

theorem stays_escapeChar (n : Nat) (c : Char) : Stays n (inside n) (escapeChar c) := by
  rcases escapeChar_cases c with ⟨-, -, h⟩ | ⟨d, cs, h, hcs⟩ <;> rw [h]
  · exact ⟨Nat.le_refl n, trivial⟩
  · exact ⟨Nat.le_refl n, Nat.le_refl n, (stays_of_neutral hcs n).2⟩

theorem stays_quoteChars (n : Nat) (cs : List Char) : Stays n (outside n) (quoteChars cs) := by
  have hinside : Stays n (inside n) (cs.flatMap escapeChar ++ ['"']) := by
    induction cs with
    | nil => exact ⟨Nat.le_refl n, trivial⟩
    | cons c cs ih =>
        rw [List.flatMap_cons, List.append_assoc, stays_append, follow_escapeChar]
        exact ⟨stays_escapeChar n c, ih⟩
  exact ⟨Nat.le_refl n, hinside⟩

theorem stays_name {n : Nat} {r : List Char} (h : Stays n (outside n) r) (k : String) :
    Stays n (outside n) (quoteChars k.toList ++ ':' :: r) := by
  rw [stays_append, follow_quoteChars]
  exact ⟨stays_quoteChars n k.toList, Nat.le_refl n, h⟩

mutual

/-- No bracket that was open before is closed in a compact text. -/
theorem stays_chars (n : Nat) (j : Json) : Stays n (outside n) (chars j) := by
  cases j with
  | null => exact (stays_of_neutral (by decide) n).1
  | bool b => cases b <;> exact (stays_of_neutral (by decide) n).1
  | int m => exact (stays_of_neutral (neutral_intChars m.val) n).1
  | float x => exact (stays_of_neutral (neutral_render x) n).1
  | str s => exact stays_quoteChars n s.toList
  | arr items =>
      cases items with
      | nil => exact ⟨Nat.le_refl n, Nat.le_succ n, trivial⟩
      | cons j js =>
          refine ⟨Nat.le_refl n, Stays.of_succ (?_ : Stays (n + 1) (outside (n + 1)) _)⟩
          rw [stays_append, follow_chars]
          exact ⟨stays_chars (n + 1) j, stays_itemChars n js⟩
  | obj members =>
      cases members with
      | nil => exact ⟨Nat.le_refl n, Nat.le_succ n, trivial⟩
      | cons m ms =>
          obtain ⟨k, j⟩ := m
          refine ⟨Nat.le_refl n, Stays.of_succ (?_ : Stays (n + 1) (outside (n + 1)) _)⟩
          refine stays_name ?_ k
          rw [stays_append, follow_chars]
          exact ⟨stays_chars (n + 1) j, stays_memberChars n ms⟩

theorem stays_itemChars (n : Nat) (js : List Json) :
    Stays (n + 1) (outside (n + 1)) (itemChars js) := by
  cases js with
  | nil => exact ⟨Nat.le_refl _, trivial⟩
  | cons j js =>
      refine ⟨Nat.le_refl _, (?_ : Stays (n + 1) (outside (n + 1)) _)⟩
      rw [stays_append, follow_chars]
      exact ⟨stays_chars (n + 1) j, stays_itemChars n js⟩

theorem stays_memberChars (n : Nat) (ms : List (String × Json)) :
    Stays (n + 1) (outside (n + 1)) (memberChars ms) := by
  cases ms with
  | nil => exact ⟨Nat.le_refl _, trivial⟩
  | cons m ms =>
      obtain ⟨k, j⟩ := m
      refine ⟨Nat.le_refl _, (?_ : Stays (n + 1) (outside (n + 1)) _)⟩
      refine stays_name ?_ k
      rw [stays_append, follow_chars]
      exact ⟨stays_chars (n + 1) j, stays_memberChars n ms⟩

end

/-! ### Arrays and objects -/

/-- An array or an object. -/
def Enclosed : Json → Prop
  | arr _ | obj _ => True
  | _ => False

/-- In the text of an array or an object, a bracket stays open behind the first character. -/
theorem Enclosed.exists_chars {j : Json} (h : j.Enclosed) :
    ∃ c cs, chars j = c :: cs ∧ (c = '[' ∨ c = '\x7b') ∧ Stays 1 (outside 1) cs := by
  have hstays := stays_chars 0 j
  cases j with
  | null | bool | int | float | str => exact h.elim
  | arr items =>
      cases items with
      | nil => exact ⟨_, _, rfl, .inl rfl, Nat.le_refl 1, trivial⟩
      | cons j js =>
          refine ⟨_, _, rfl, .inl rfl, ?_⟩
          rw [stays_append, follow_chars]
          exact ⟨stays_chars 1 j, stays_itemChars 0 js⟩
  | obj members =>
      cases members with
      | nil => exact ⟨_, _, rfl, .inr rfl, Nat.le_refl 1, trivial⟩
      | cons m ms =>
          refine ⟨_, _, rfl, .inr rfl, stays_name ?_ m.1⟩
          rw [stays_append, follow_chars]
          exact ⟨stays_chars 1 m.2, stays_memberChars 0 ms⟩

/-- Where a bracket is open, the text of an array or an object does not close the last one. -/
theorem Enclosed.follow_ne {k : Json} (h : k.Enclosed) {p : Place} (hp : p.AtLeast 1) :
    p.follow (chars k) ≠ outside 0 := by
  obtain ⟨c, cs, hchars, hc, -⟩ := h.exists_chars
  have hastray : ∀ {q : Place}, q.Astray → q.follow (chars k) ≠ outside 0 := by
    intro q hq heq
    have hend := astray_chars hq k
    rw [heq] at hend
    rcases hend with h | ⟨n, h⟩ <;> cases h
  cases p with
  | outside m =>
      rw [follow_chars]
      rintro ⟨⟩
      exact Nat.not_succ_le_zero 0 hp
  | inside m => exact hastray (.inr ⟨m, rfl⟩)
  | escaped m =>
      -- behind a backslash the bracket is a character like any other between quotes
      have hsame : (escaped m).follow (chars k) = (inside m).follow (chars k) := by
        rw [hchars]
        rcases hc with rfl | rfl <;> rfl
      rw [hsame]
      exact hastray (.inr ⟨m, rfl⟩)
  | lost => exact hastray (.inl rfl)

theorem Enclosed.eq_nil_of_chars_append {j k : Json} (hj : j.Enclosed) (hk : k.Enclosed)
    {cs : List Char} (h : chars j = cs ++ chars k) : cs = [] := by
  obtain ⟨c, rest, hchars, hc, hstays⟩ := hj.exists_chars
  cases cs with
  | nil => rfl
  | cons d cs =>
      exfalso
      rw [hchars, List.cons_append] at h
      obtain ⟨rfl, rfl⟩ := List.cons.inj h
      have hplace : ((outside 1).follow cs).AtLeast 1 := by
        obtain ⟨d, ds, hk, -⟩ := hk.exists_chars
        rw [stays_append, hk] at hstays
        exact hstays.2.1
      have hopen : (outside 0).next c = outside 1 := by rcases hc with rfl | rfl <;> rfl
      have hend := follow_chars 0 j
      rw [hchars, follow_cons, hopen, follow_append] at hend
      exact hk.follow_ne hplace hend

/-- Texts that end in an array or an object are the same up to there and from there on. -/
theorem Enclosed.append_chars_inj {j k : Json} (hj : j.Enclosed) (hk : k.Enclosed)
    {cs ds : List Char} (h : cs ++ chars j = ds ++ chars k) : cs = ds ∧ chars j = chars k := by
  rcases List.append_eq_append_iff.1 h with ⟨as, rfl, has⟩ | ⟨as, rfl, has⟩
  · obtain rfl := hj.eq_nil_of_chars_append hk has
    exact ⟨(List.append_nil cs).symm, has⟩
  · obtain rfl := hk.eq_nil_of_chars_append hj has
    exact ⟨List.append_nil ds, has.symm⟩

end Faultline.Json
