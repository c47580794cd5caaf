import Faultline.Proofs.Json.RoundTrip
import Faultline.Proofs.Sameness

/-!
# Where two values diverge

Two values that agree up to some place, where one has `v` and the other has `w`, have different
compact texts, whatever stands behind the place (`Diverge.chars_append_ne`).  The values at the
place have to be plain, since they are told apart by reading them back; floats anywhere else do no
harm, since what stands in front of the place is the same text in both.  Neither are they the same
value (`Diverge.same_eq_false`).
-/

namespace Faultline.Json

open Document

/-- Two values that agree up to a place, where one has `v` and the other has `w`. -/
inductive Diverge (v w : Json) : Json → Json → Prop
  | here : Diverge v w v w
  | member {k : String} {front back back' : List (String × Json)} {c c' : Json}
      (h : Diverge v w c c') :
      Diverge v w (.obj (front ++ (k, c) :: back)) (.obj (front ++ (k, c') :: back'))

/-- The text of a plain value can be told from what stands behind it. -/
theorem Plain.eq_of_chars_append {v w : Json} (hv : v.Plain) (hw : w.Plain) {r r' : List Char}
    (hr : Ends r) (hr' : Ends r') (h : chars v ++ r = chars w ++ r') : v = w := by
  have hscan := scanValue_chars v (max (chars v).length (chars w).length) r hv.floatFree
    (Nat.le_max_left _ _) hr
  have hscan' := scanValue_chars w (max (chars v).length (chars w).length) r' hw.floatFree
    (Nat.le_max_right _ _) hr'
  rw [h, hscan'] at hscan
  have hdocument : ofJson w = ofJson v := (Prod.mk.inj (Option.some.inj hscan)).1
  have hread := toJsonWithin?_ofJson v (max v.depth w.depth + 1) hv.ordered (by omega)
  rw [← hdocument, toJsonWithin?_ofJson w _ hw.ordered (by omega)] at hread
  exact (Option.some.inj hread).symm

/-! ### The text in front of a member -/

theorem exists_memberChars_append (front : List (String × Json)) (k : String) :
    ∃ cs, ∀ c back,
      memberChars (front ++ (k, c) :: back) = cs ++ (chars c ++ memberChars back) := by
  induction front with
  | nil => exact ⟨',' :: (quoteChars k.toList ++ [':']), fun c back => by simp [memberChars]⟩
  | cons m front ih =>
      obtain ⟨k₀, v₀⟩ := m
      obtain ⟨cs, hcs⟩ := ih
      exact ⟨',' :: (quoteChars k₀.toList ++ ':' :: (chars v₀ ++ cs)),
        fun c back => by simp [memberChars, hcs]⟩

/-- The text in front of the value of a member depends on the members before it and its name. -/
theorem exists_chars_obj_append (front : List (String × Json)) (k : String) :
    ∃ cs, ∀ c back,
      chars (.obj (front ++ (k, c) :: back)) = cs ++ (chars c ++ memberChars back) := by
  cases front with
  | nil => exact ⟨'\x7b' :: (quoteChars k.toList ++ [':']), fun c back => by simp [chars]⟩
  | cons m front =>
      obtain ⟨k₀, v₀⟩ := m
      obtain ⟨cs, hcs⟩ := exists_memberChars_append front k
      exact ⟨'\x7b' :: (quoteChars k₀.toList ++ ':' :: (chars v₀ ++ cs)),
        fun c back => by simp [chars, hcs]⟩

/-- Members differ where one of them does, whatever the others are. -/
theorem sameMembers_append_cons {front back back' : List (String × Json)} {k : String}
    {c c' : Json} (h : c.same c' = false) :
    sameMembers (front ++ (k, c) :: back) (front ++ (k, c') :: back') = false := by
  induction front with
  | nil => simp [sameMembers, h]
  | cons m front ih => simp [sameMembers, ih]

namespace Diverge

variable {v w j j' : Json}

theorem chars_append_ne (h : Diverge v w j j') (hv : v.Plain) (hw : w.Plain) (hne : v ≠ w)
    {r r' : List Char} (hr : Ends r) (hr' : Ends r') : chars j ++ r ≠ chars j' ++ r' := by
  induction h generalizing r r' with
  | here => exact fun hsame => hne (hv.eq_of_chars_append hw hr hr' hsame)
  | @member k front back back' c c' _ ih =>
      obtain ⟨cs, hcs⟩ := exists_chars_obj_append front k
      rw [hcs, hcs, List.append_assoc, List.append_assoc, List.append_assoc, List.append_assoc]
      intro hsame
      exact ih (memberChars_ends back r) (memberChars_ends back' r') (List.append_cancel_left hsame)

theorem chars_ne (h : Diverge v w j j') (hv : v.Plain) (hw : w.Plain) (hne : v ≠ w) :
    chars j ≠ chars j' := by
  simpa using h.chars_append_ne hv hw hne ends_nil ends_nil

theorem same_eq_false (h : Diverge v w j j') (hv : v.Plain) (hw : w.Plain) (hne : v ≠ w) :
    j.same j' = false := by
  induction h with
  | here =>
      rw [Bool.eq_false_iff]
      exact fun hsame => hne (eq_of_same hsame hv.floatFree hw.floatFree)
  | member _ ih =>
      rw [same]
      exact sameMembers_append_cons ih

end Diverge

end Faultline.Json
