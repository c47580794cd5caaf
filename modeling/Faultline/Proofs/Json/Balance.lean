import Faultline.Proofs.Json.Scan
import Mathlib.Tactic.SplitIfs

/-!
# Balance of compact text

A reader that only keeps count of open brackets and knows whether it is between quotes.  Compact
text leaves it where it was (`follow_chars`), and compact text that it takes for the inside of a
quoted one never leads it outside (`astray_chars`).  Hence no compact text ends in a comma and
another compact text (`ne_append_comma`).
-/

namespace Faultline.Json

/-- Where a reader of compact text stands. -/
inductive Place where
  | outside (depth : Nat)
  /-- Between quotes. -/
  | inside (depth : Nat)
  /-- Between quotes, behind a backslash. -/
  | escaped (depth : Nat)
  /-- Behind a character that is in no compact text there. -/
  | lost
  deriving DecidableEq

namespace Place

def next : Place → Char → Place
  | outside n, c =>
    if c = '"' then inside n
    else if c = '[' ∨ c = '\x7b' then outside (n + 1)
    else if c = ']' ∨ c = '\x7d' then
      match n with
      | 0 => lost
      | n + 1 => outside n
    else if c = '\\' ∨ c = ',' ∧ n = 0 then lost
    else outside n
  | inside n, c => if c = '"' then outside n else if c = '\\' then escaped n else inside n
  | escaped n, _ => inside n
  | lost, _ => lost

def follow (p : Place) (cs : List Char) : Place :=
  cs.foldl next p

@[simp] theorem follow_nil (p : Place) : p.follow [] = p := rfl

@[simp] theorem follow_cons (p : Place) (c : Char) (cs : List Char) :
    p.follow (c :: cs) = (p.next c).follow cs := rfl

@[simp] theorem follow_append (p : Place) (cs ds : List Char) :
    p.follow (cs ++ ds) = (p.follow cs).follow ds :=
  List.foldl_append

@[simp] theorem follow_lost (cs : List Char) : lost.follow cs = lost := by
  induction cs with
  | nil => rfl
  | cons c cs ih => exact ih

/-- Between quotes, or lost: from here no compact text leads outside. -/
def Astray (p : Place) : Prop :=
  p = lost ∨ ∃ n, p = inside n

/-- Outside of quotes, or lost: where a reader that went astray is between the quotes of a text. -/
def Loose (p : Place) : Prop :=
  p = lost ∨ ∃ n, p = outside n

end Place

open Place Document

/-! ### Characters that change nothing -/

/-- A character that is neither a quote, a backslash, a bracket nor a comma. -/
def isNeutral (c : Char) : Bool :=
  !(['"', '\\', '[', ']', '\x7b', '\x7d', ','].contains c)

theorem isNeutral_of_isDigit {c : Char} (h : c.isDigit = true) : isNeutral c = true := by
  have hmarks : (['"', '\\', '[', ']', '\x7b', '\x7d', ','].all fun d => !d.isDigit) = true := by
    decide
  rw [isNeutral, Bool.not_eq_true', List.contains_eq_mem, decide_eq_false_iff_not]
  intro hmem
  have hdigit := List.all_eq_true.1 hmarks c hmem
  rw [h] at hdigit
  cases hdigit

theorem next_of_isNeutral {c : Char} (h : isNeutral c = true) (n : Nat) :
    (outside n).next c = outside n ∧ (inside n).next c = inside n := by
  simp [isNeutral] at h
  simp [next, h]

theorem follow_of_neutral {cs : List Char} (h : cs.all isNeutral = true) (n : Nat) :
    (outside n).follow cs = outside n ∧ (inside n).follow cs = inside n := by
  induction cs with
  | nil => exact ⟨rfl, rfl⟩
  | cons c cs ih =>
      rw [List.all_cons, Bool.and_eq_true] at h
      obtain ⟨houtside, hinside⟩ := next_of_isNeutral h.1 n
      rw [follow_cons, follow_cons, houtside, hinside]
      exact ih h.2

theorem neutral_toDigits (n : Nat) : (Nat.toDigits 10 n).all isNeutral = true :=
  List.all_eq_true.2 fun _ hc => isNeutral_of_isDigit (isDigit_of_mem_toDigits hc)

theorem neutral_intChars (i : Int) : (intChars i).all isNeutral = true := by
  unfold intChars
  split
  · rw [List.all_cons, neutral_toDigits]
    decide
  · exact neutral_toDigits i.natAbs

/-- A number with neutral digits is neutral if the marks of its layout are. -/
theorem neutral_write {l : Decimal.Layout} {digits : List Char}
    (hdigits : digits.all isNeutral = true) (hmark : l.mark.toList.all isNeutral = true)
    (hplus : l.plus.toList.all isNeutral = true) (hminus : l.minus.toList.all isNeutral = true)
    (exponent : Int) : (l.write digits exponent).toList.all isNeutral = true := by
  have hpart : ∀ part : List Char, part ⊆ digits → part.all isNeutral = true :=
    fun part hpart => List.all_eq_true.2 fun c hc => List.all_eq_true.1 hdigits c (hpart hc)
  have htake : ∀ k, (digits.take k).all isNeutral = true := fun k =>
    hpart _ (List.take_subset k digits)
  have hdrop : ∀ k, (digits.drop k).all isNeutral = true := fun k =>
    hpart _ (List.drop_subset k digits)
  have hzeros : ∀ k, (List.replicate k '0').all isNeutral = true := by
    intro k
    rw [List.all_eq_true]
    intro c hc
    rw [List.eq_of_mem_replicate hc]
    decide
  have hpoint : ".".toList.all isNeutral = true := by decide
  have hfraction : (if (digits.drop 1).isEmpty then "" else
      "." ++ String.ofList (digits.drop 1)).toList.all isNeutral = true := by
    split
    · rfl
    · simp only [String.toList_append, String.toList_ofList, List.all_append, hpoint, hdrop,
        Bool.and_self]
  have hsign : (if exponent - 1 < 0 then l.minus else l.plus).toList.all isNeutral = true := by
    split
    · exact hminus
    · exact hplus
  unfold Decimal.Layout.write
  simp only
  split
  · split
    · simp only [String.toList_append, String.toList_ofList, List.all_append, hzeros, hdigits,
        Bool.and_true]
      decide
    · split <;>
        simp only [String.toList_append, String.toList_ofList, List.all_append, hzeros, hdigits,
          htake, hdrop, hpoint, Bool.true_and]
      decide
  · rw [String.toList_append, String.toList_append, String.toList_append, String.toList_append,
      String.toList_ofList, Nat.toList_repr]
    simp only [List.all_append, htake, hfraction, hmark, hsign, neutral_toDigits, Bool.and_self]

theorem neutral_trim (d : Decimal.Digits) : d.trim.1.all isNeutral = true := by
  rw [List.all_eq_true]
  intro c hc
  have hmem : c ∈ (Nat.toDigits 10 d.value).reverse :=
    (List.dropWhile_sublist _).subset (List.mem_reverse.1 hc)
  exact List.all_eq_true.1 (neutral_toDigits d.value) c (List.mem_reverse.1 hmem)

theorem neutral_render (x : Binary64) : (Decimal.plain.render x).toList.all isNeutral = true := by
  have hbody : (if x.isZero then "0.0" else Decimal.plain.write (Decimal.shortest x).trim.1
      (Decimal.shortest x).trim.2).toList.all isNeutral = true := by
    split
    · decide
    · exact neutral_write (neutral_trim _) (by decide) (by decide) (by decide) _
  unfold Decimal.Layout.render
  simp only
  split
  · rw [String.toList_append, List.all_append, hbody, Bool.and_true]
    decide
  · exact hbody

/-! ### Between quotes -/

theorem isNeutral_hexDigit : ∀ k < 16, isNeutral (hexDigit k) = true := by
  decide

/-- A character stands as it is, or behind a backslash with neutral characters after that. -/
theorem escapeChar_cases (c : Char) :
    (c ≠ '"' ∧ c ≠ '\\' ∧ escapeChar c = [c]) ∨
      ∃ d cs, escapeChar c = '\\' :: d :: cs ∧ cs.all isNeutral = true := by
  unfold escapeChar
  split_ifs with hquote hbackslash hnewline hreturn htab hback hfeed hcontrol
  iterate 7 exact .inr ⟨_, [], rfl, rfl⟩
  · have hhigh := isNeutral_hexDigit (c.toNat / 16) (by omega)
    have hlow := isNeutral_hexDigit (c.toNat % 16) (by omega)
    have hzero : isNeutral '0' = true := by decide
    exact .inr ⟨_, _, rfl, by simp [hhigh, hlow, hzero]⟩
  · exact .inl ⟨hquote, hbackslash, rfl⟩

theorem follow_escapeChar (n : Nat) (c : Char) : (inside n).follow (escapeChar c) = inside n := by
  rcases escapeChar_cases c with ⟨hquote, hbackslash, h⟩ | ⟨d, cs, h, hcs⟩
  · simp [h, next, hquote, hbackslash]
  · rw [h]
    exact (follow_of_neutral hcs n).2

theorem loose_next {p : Place} (hp : p.Loose) {c : Char} (hc : c ≠ '"') : (p.next c).Loose := by
  rcases hp with rfl | ⟨n, rfl⟩
  · exact .inl rfl
  · simp only [next, if_neg hc]
    split_ifs
    · exact .inr ⟨_, rfl⟩
    · cases n
      · exact .inl rfl
      · exact .inr ⟨_, rfl⟩
    · exact .inl rfl
    · exact .inr ⟨_, rfl⟩

theorem loose_escapeChar {p : Place} (hp : p.Loose) (c : Char) :
    (p.follow (escapeChar c)).Loose := by
  rcases escapeChar_cases c with ⟨hquote, -, h⟩ | ⟨d, cs, h, -⟩
  · rw [h]
    exact loose_next hp hquote
  · -- outside of quotes there is no backslash
    have hlost : p.next '\\' = lost := by rcases hp with rfl | ⟨n, rfl⟩ <;> rfl
    rw [h, follow_cons, hlost, follow_lost]
    exact .inl rfl

theorem follow_quoteChars (n : Nat) (cs : List Char) :
    (outside n).follow (quoteChars cs) = outside n := by
  have hinside : (inside n).follow (cs.flatMap escapeChar) = inside n := by
    induction cs with
    | nil => rfl
    | cons c cs ih => rw [List.flatMap_cons, follow_append, follow_escapeChar, ih]
  show ((inside n).follow (cs.flatMap escapeChar ++ ['"'])) = outside n
  rw [follow_append, hinside]
  rfl

/-- A name leaves a reader where it was, with the colon behind it. -/
theorem follow_name (n : Nat) (k : String) (r : List Char) :
    (outside n).follow (quoteChars k.toList ++ ':' :: r) = (outside n).follow r := by
  rw [follow_append, follow_quoteChars]
  rfl

theorem astray_quoteChars {p : Place} (hp : p.Astray) (cs : List Char) :
    (p.follow (quoteChars cs)).Astray := by
  have hloose : ∀ {p : Place}, p.Loose → (p.follow (cs.flatMap escapeChar)).Loose := by
    induction cs with
    | nil => exact fun hp => hp
    | cons c cs ih =>
        intro p hp
        rw [List.flatMap_cons, follow_append]
        exact ih (loose_escapeChar hp c)
  have hopen : (p.next '"').Loose := by
    rcases hp with rfl | ⟨n, rfl⟩
    · exact .inl rfl
    · exact .inr ⟨n, rfl⟩
  rw [quoteChars, follow_cons, follow_append]
  rcases hloose hopen with h | ⟨n, h⟩ <;> rw [h]
  · exact .inl rfl
  · exact .inr ⟨n, rfl⟩

theorem astray_next {p : Place} (hp : p.Astray) {c : Char} (hc : c ≠ '"' ∧ c ≠ '\\') :
    (p.next c).Astray := by
  rcases hp with rfl | ⟨n, rfl⟩
  · exact .inl rfl
  · exact .inr ⟨n, by rw [next, if_neg hc.1, if_neg hc.2]⟩

theorem astray_of_neutral {p : Place} (hp : p.Astray) {cs : List Char}
    (h : cs.all isNeutral = true) : (p.follow cs).Astray := by
  rcases hp with rfl | ⟨n, rfl⟩
  · exact .inl (follow_lost cs)
  · exact .inr ⟨n, (follow_of_neutral h n).2⟩

/-! ### Values -/

mutual

/-- Compact text leaves a reader where it was. -/
theorem follow_chars (n : Nat) (j : Json) : (outside n).follow (chars j) = outside n := by
  cases j with
  | null => rfl
  | bool b => cases b <;> rfl
  | int m => exact (follow_of_neutral (neutral_intChars m.val) n).1
  | float x => exact (follow_of_neutral (neutral_render x) n).1
  | str s => exact follow_quoteChars n s.toList
  | arr items =>
      cases items with
      | nil => rfl
      | cons j js =>
          show (outside (n + 1)).follow (chars j ++ itemChars js) = outside n
          rw [follow_append, follow_chars, follow_itemChars]
  | obj members =>
      cases members with
      | nil => rfl
      | cons m ms =>
          obtain ⟨k, j⟩ := m
          show (outside (n + 1)).follow
            (quoteChars k.toList ++ ':' :: (chars j ++ memberChars ms)) = outside n
          rw [follow_name, follow_append, follow_chars, follow_memberChars]

theorem follow_itemChars (n : Nat) (js : List Json) :
    (outside (n + 1)).follow (itemChars js) = outside n := by
  cases js with
  | nil => rfl
  | cons j js =>
      show (outside (n + 1)).follow (chars j ++ itemChars js) = outside n
      rw [follow_append, follow_chars, follow_itemChars]

theorem follow_memberChars (n : Nat) (ms : List (String × Json)) :
    (outside (n + 1)).follow (memberChars ms) = outside n := by
  cases ms with
  | nil => rfl
  | cons m ms =>
      obtain ⟨k, j⟩ := m
      show (outside (n + 1)).follow (quoteChars k.toList ++ ':' :: (chars j ++ memberChars ms)) =
        outside n
      rw [follow_name, follow_append, follow_chars, follow_memberChars]

end

mutual

/-- Compact text that is met between quotes does not lead out of them. -/
theorem astray_chars {p : Place} (hp : p.Astray) (j : Json) : (p.follow (chars j)).Astray := by
  cases j with
  | null => exact astray_of_neutral hp (by decide)
  | bool b => cases b <;> exact astray_of_neutral hp (by decide)
  | int m => exact astray_of_neutral hp (neutral_intChars m.val)
  | float x => exact astray_of_neutral hp (neutral_render x)
  | str s => exact astray_quoteChars hp s.toList
  | arr items =>
      cases items with
      | nil => exact astray_next (astray_next hp (by decide)) (by decide)
      | cons j js =>
          rw [chars, follow_cons, follow_append]
          exact astray_itemChars (astray_chars (astray_next hp (by decide)) j) js
  | obj members =>
      cases members with
      | nil => exact astray_next (astray_next hp (by decide)) (by decide)
      | cons m ms =>
          obtain ⟨k, j⟩ := m
          have hkey := astray_quoteChars (astray_next hp (c := '\x7b') (by decide)) k.toList
          rw [chars, follow_cons, follow_append, follow_cons, follow_append]
          exact astray_memberChars (astray_chars (astray_next hkey (by decide)) j) ms

theorem astray_itemChars {p : Place} (hp : p.Astray) (js : List Json) :
    (p.follow (itemChars js)).Astray := by
  cases js with
  | nil => exact astray_next hp (by decide)
  | cons j js =>
      rw [itemChars, follow_cons, follow_append]
      exact astray_itemChars (astray_chars (astray_next hp (by decide)) j) js

theorem astray_memberChars {p : Place} (hp : p.Astray) (ms : List (String × Json)) :
    (p.follow (memberChars ms)).Astray := by
  cases ms with
  | nil => exact astray_next hp (by decide)
  | cons m ms =>
      obtain ⟨k, j⟩ := m
      have hkey := astray_quoteChars (astray_next hp (c := ',') (by decide)) k.toList
      rw [memberChars, follow_cons, follow_append, follow_cons, follow_append]
      exact astray_memberChars (astray_chars (astray_next hkey (by decide)) j) ms

end

/-! ### Texts behind a comma -/

/-- Nothing, or the compact text of a value. -/
def IsCompact (cs : List Char) : Prop :=
  cs = [] ∨ ∃ j, cs = chars j

/-- A compact text does not end in a comma and another one. -/
theorem IsCompact.ne_append_comma {cs ds : List Char} (hcs : IsCompact cs) (hds : IsCompact ds)
    (us : List Char) : cs ≠ us ++ ',' :: ds := by
  rcases hcs with rfl | ⟨j, rfl⟩
  · simp
  intro heq
  have hend : ((outside 0).follow (us ++ ',' :: ds)) = outside 0 := heq ▸ follow_chars 0 j
  rw [follow_append, follow_cons] at hend
  -- Behind the comma the reader is in brackets, or between quotes.
  have hplace : (∃ n, ((outside 0).follow us).next ',' = outside (n + 1)) ∨
      (((outside 0).follow us).next ',').Astray := by
    match (outside 0).follow us with
    | outside 0 => exact .inr (.inl rfl)
    | outside (n + 1) => exact .inl ⟨n, rfl⟩
    | inside n => exact .inr (.inr ⟨n, rfl⟩)
    | escaped n => exact .inr (.inr ⟨n, rfl⟩)
    | lost => exact .inr (.inl rfl)
  rcases hplace with ⟨n, hn⟩ | hastray
  · rw [hn] at hend
    rcases hds with rfl | ⟨j, rfl⟩
    · cases hend
    · rw [follow_chars] at hend
      cases hend
  · have hafter : ((((outside 0).follow us).next ',').follow ds).Astray := by
      rcases hds with rfl | ⟨j, rfl⟩
      · exact hastray
      · exact astray_chars hastray j
    rw [hend] at hafter
    rcases hafter with h | ⟨n, h⟩ <;> cases h

end Faultline.Json
