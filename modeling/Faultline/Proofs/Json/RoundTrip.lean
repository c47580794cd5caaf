import Faultline.Proofs.Json.Scan

/-!
# Reading back compact text

`parse?_compact` states that the compact text of a value is read as that value.  It holds of the
values that have no float, whose objects list their members in key order and which nest below the
reader's limit.  The scanner is followed first, on documents, with what stands behind the value
and the fuel left open; the value of the document is taken afterwards, and only there the order
and the depth count.
-/

namespace Faultline

namespace Json

/-! ### The values that are read back -/

mutual

/-- No number has a fraction part or an exponent. -/
def floatFree : Json → Bool
  | float _ => false
  | arr items => floatFreeItems items
  | obj members => floatFreeMembers members
  | _ => true

def floatFreeItems : List Json → Bool
  | [] => true
  | j :: js => floatFree j && floatFreeItems js

def floatFreeMembers : List (String × Json) → Bool
  | [] => true
  | (_, j) :: ms => floatFree j && floatFreeMembers ms

end

mutual

/-- Every object lists its members in key order. -/
def ordered : Json → Bool
  | arr items => orderedItems items
  | obj members => decide (Entries.Sorted members) && orderedMembers members
  | _ => true

def orderedItems : List Json → Bool
  | [] => true
  | j :: js => ordered j && orderedItems js

def orderedMembers : List (String × Json) → Bool
  | [] => true
  | (_, j) :: ms => ordered j && orderedMembers ms

end

mutual

/-- The largest number of brackets around a part of the value. -/
def depth : Json → Nat
  | arr items => itemsDepth items + 1
  | obj members => membersDepth members + 1
  | _ => 0

def itemsDepth : List Json → Nat
  | [] => 0
  | j :: js => max (depth j) (itemsDepth js)

def membersDepth : List (String × Json) → Nat
  | [] => 0
  | (_, j) :: ms => max (depth j) (membersDepth ms)

end

/-- A value without floats whose objects are in order. -/
structure Plain (j : Json) : Prop where
  floatFree : j.floatFree = true
  ordered : j.ordered = true

theorem floatFreeItems_iff {js : List Json} :
    floatFreeItems js = true ↔ ∀ j ∈ js, j.floatFree = true := by
  induction js with
  | nil => simp [floatFreeItems]
  | cons j js ih => simp [floatFreeItems, ih]

theorem floatFreeMembers_iff {ms : List (String × Json)} :
    floatFreeMembers ms = true ↔ ∀ m ∈ ms, m.2.floatFree = true := by
  induction ms with
  | nil => simp [floatFreeMembers]
  | cons m ms ih => simp [floatFreeMembers, ih]

theorem orderedItems_iff {js : List Json} :
    orderedItems js = true ↔ ∀ j ∈ js, j.ordered = true := by
  induction js with
  | nil => simp [orderedItems]
  | cons j js ih => simp [orderedItems, ih]

theorem orderedMembers_iff {ms : List (String × Json)} :
    orderedMembers ms = true ↔ ∀ m ∈ ms, m.2.ordered = true := by
  induction ms with
  | nil => simp [orderedMembers]
  | cons m ms ih => simp [orderedMembers, ih]

theorem plain_arr {js : List Json} : Plain (arr js) ↔ ∀ j ∈ js, Plain j := by
  constructor
  · rintro ⟨hfree, hordered⟩ j hj
    exact ⟨floatFreeItems_iff.1 hfree j hj, orderedItems_iff.1 hordered j hj⟩
  · intro h
    exact ⟨floatFreeItems_iff.2 fun j hj => (h j hj).1, orderedItems_iff.2 fun j hj => (h j hj).2⟩

theorem plain_obj {ms : List (String × Json)} :
    Plain (obj ms) ↔ Entries.Sorted ms ∧ ∀ m ∈ ms, Plain m.2 := by
  constructor
  · rintro ⟨hfree, hordered⟩
    simp only [ordered, Bool.and_eq_true, decide_eq_true_eq] at hordered
    exact ⟨hordered.1, fun m hm =>
      ⟨floatFreeMembers_iff.1 hfree m hm, orderedMembers_iff.1 hordered.2 m hm⟩⟩
  · rintro ⟨hsorted, h⟩
    refine ⟨floatFreeMembers_iff.2 fun m hm => (h m hm).1, ?_⟩
    simp only [ordered, hsorted, decide_true, Bool.true_and]
    exact orderedMembers_iff.2 fun m hm => (h m hm).2

theorem plain_str (s : String) : Plain (str s) := ⟨rfl, rfl⟩

theorem itemsDepth_le {js : List Json} {n : Nat} :
    itemsDepth js ≤ n ↔ ∀ j ∈ js, j.depth ≤ n := by
  induction js with
  | nil => simp [itemsDepth]
  | cons j js ih => rw [itemsDepth, Nat.max_le, ih, List.forall_mem_cons]

theorem membersDepth_le {ms : List (String × Json)} {n : Nat} :
    membersDepth ms ≤ n ↔ ∀ m ∈ ms, m.2.depth ≤ n := by
  induction ms with
  | nil => simp [membersDepth]
  | cons m ms ih => rw [membersDepth, Nat.max_le, ih, List.forall_mem_cons]

end Json

namespace Document

open Json

/-! ### Following the scanner -/

/-- A character at which a value may start. -/
def isStart (c : Char) : Bool :=
  !isGap c && c != ']' && c != '\x7d'

theorem skipGap_of_not_isGap {c : Char} (h : isGap c = false) (r : List Char) :
    skipGap (c :: r) = c :: r := by
  simp [skipGap, h]

theorem isStart_of_isDigit {c : Char} (h : c.isDigit = true) : isStart c = true := by
  have hrange := Char.isDigit_iff_toNat.1 h
  have hne : ∀ d : Char, d.isDigit = false → c ≠ d := by
    rintro d hd rfl
    rw [h] at hd
    cases hd
  simp [isStart, isGap, hne _ (show ' '.isDigit = false by decide),
    hne _ (show '\n'.isDigit = false by decide), hne _ (show '\t'.isDigit = false by decide),
    hne _ (show '\r'.isDigit = false by decide), hne _ (show ']'.isDigit = false by decide),
    hne _ (show '\x7d'.isDigit = false by decide)]

/-- The numeral of an integer starts with a digit or a minus. -/
theorem intChars_eq_cons (i : Int) :
    ∃ c cs, intChars i = c :: cs ∧ (c = '-' ∨ c.isDigit = true) := by
  unfold intChars
  split
  · exact ⟨'-', _, rfl, .inl rfl⟩
  · cases h : Nat.toDigits 10 i.natAbs with
    | nil => exact absurd h Nat.toDigits_ne_nil
    | cons c cs =>
        exact ⟨c, cs, rfl, .inr (isDigit_of_mem_toDigits (h ▸ List.mem_cons_self))⟩

theorem chars_eq_cons {j : Json} (h : j.floatFree = true) :
    ∃ c cs, chars j = c :: cs ∧ isStart c = true := by
  cases j with
  | null => exact ⟨_, _, rfl, by decide⟩
  | bool b => cases b <;> exact ⟨_, _, rfl, by decide⟩
  | int n =>
      obtain ⟨c, cs, hcs, hc⟩ := intChars_eq_cons n.val
      refine ⟨c, cs, hcs, ?_⟩
      rcases hc with rfl | hc
      · decide
      · exact isStart_of_isDigit hc
  | float x => simp [floatFree] at h
  | str s => exact ⟨_, _, rfl, by decide⟩
  | arr items => cases items <;> exact ⟨_, _, rfl, by decide⟩
  | obj members =>
      cases members with
      | nil => exact ⟨_, _, rfl, by decide⟩
      | cons m ms => exact ⟨_, _, rfl, by decide⟩

theorem not_isGap_of_isStart {c : Char} (h : isStart c = true) : isGap c = false := by
  simp [isStart] at h
  exact h.1.1

theorem itemChars_ends (js : List Json) (r : List Char) : Ends (itemChars js ++ r) := by
  cases js with
  | nil => exact ends_cons (by decide) _
  | cons j js => exact ends_cons (by decide) _

theorem memberChars_ends (ms : List (String × Json)) (r : List Char) :
    Ends (memberChars ms ++ r) := by
  cases ms with
  | nil => exact ends_cons (by decide) _
  | cons m ms => exact ends_cons (by decide) _

theorem skipGap_itemChars (js : List Json) (r : List Char) :
    skipGap (itemChars js ++ r) = itemChars js ++ r := by
  cases js with
  | nil => exact skipGap_of_not_isGap (by decide) _
  | cons j js => exact skipGap_of_not_isGap (by decide) _

theorem skipGap_memberChars (ms : List (String × Json)) (r : List Char) :
    skipGap (memberChars ms ++ r) = memberChars ms ++ r := by
  cases ms with
  | nil => exact skipGap_of_not_isGap (by decide) _
  | cons m ms => exact skipGap_of_not_isGap (by decide) _

/-- What starts with a digit or a minus is read as a numeral. -/
theorem scanValue_numeral {c : Char} {cs : List Char} (fuel : Nat)
    (h : c = '-' ∨ c.isDigit = true) :
    scanValue (fuel + 1) (c :: cs) =
      (scanNumeral (c :: cs)).map fun (n, r) => (number n.value?, r) := by
  have hgap : isGap c = false := by
    rcases h with rfl | h
    · decide
    · exact not_isGap_of_isStart (isStart_of_isDigit h)
  have hne : ∀ d : Char, d.isDigit = false → d ≠ '-' → c ≠ d := by
    rintro d hd hminus rfl
    rcases h with h | h
    · exact hminus h
    · rw [h] at hd
      cases hd
  rw [scanValue, skipGap_of_not_isGap hgap]
  split
  · next heq => exact absurd (List.cons.inj heq).1 (hne _ (by decide) (by decide))
  · next heq => exact absurd (List.cons.inj heq).1 (hne _ (by decide) (by decide))
  · next heq => exact absurd (List.cons.inj heq).1 (hne _ (by decide) (by decide))
  · next heq => exact absurd (List.cons.inj heq).1 (hne _ (by decide) (by decide))
  · next heq => exact absurd (List.cons.inj heq).1 (hne _ (by decide) (by decide))
  · next heq => exact absurd (List.cons.inj heq).1 (hne _ (by decide) (by decide))
  · rfl

theorem scanValue_quoted (s : String) (fuel : Nat) (r : List Char) :
    scanValue (fuel + 1) (quoteChars s.toList ++ r) = some (str (some s), r) := by
  obtain ⟨body, hbody, hscan⟩ := scanQuoted_quoteChars s r
  rw [hbody, scanValue, skipGap_of_not_isGap (by decide)]
  simp [hscan]

/-- A list is read item by item, where no blanks stand in front of its items. -/
theorem scanValue_arr {cs r r' : List Char} {d : Document} {ds : List Document} {fuel : Nat}
    (hstart : ∃ c cs', cs = c :: cs' ∧ isStart c = true)
    (hfirst : scanValue fuel cs = some (d, r)) (hgap : skipGap r = r)
    (hrest : scanItems fuel r = some (ds, r')) :
    scanValue (fuel + 1) ('[' :: cs) = some (arr (d :: ds), r') := by
  obtain ⟨c, cs, rfl, hc⟩ := hstart
  have hne : c ≠ ']' := by
    rintro rfl
    exact absurd hc (by decide)
  rw [scanValue, skipGap_of_not_isGap (by decide)]
  simp only [skipGap_of_not_isGap (not_isGap_of_isStart hc)]
  split
  · next heq => exact absurd (List.cons.inj heq).1 hne
  · simp [hfirst, hgap, hrest]

theorem scanMember_quoted (k : String) (v : Json) (fuel : Nat) (r : List Char)
    (hv : scanValue fuel (chars v ++ r) = some (ofJson v, r)) :
    scanMember (fuel + 1) (quoteChars k.toList ++ ':' :: (chars v ++ r)) =
      some ((some k, ofJson v), r) := by
  obtain ⟨body, hbody, hscan⟩ := scanQuoted_quoteChars k (':' :: (chars v ++ r))
  rw [hbody, scanMember, skipGap_of_not_isGap (by decide)]
  simp [hscan, skipGap_of_not_isGap (show isGap ':' = false by decide), hv]

mutual

/-- The scanner reads the compact form of a value as a document with that value. -/
theorem scanValue_chars : ∀ (j : Json) (fuel : Nat) (r : List Char), j.floatFree = true →
    (chars j).length ≤ fuel → Ends r → scanValue fuel (chars j ++ r) = some (ofJson j, r)
  | j, 0, r, hfree, hfuel, _ => by
      obtain ⟨c, cs, hcs, -⟩ := chars_eq_cons hfree
      simp [hcs] at hfuel
  | .null, fuel + 1, r, _, _, _ => by simp [chars, scanValue, skipGap, isGap, ofJson]
  | .bool true, fuel + 1, r, _, _, _ => by simp [chars, scanValue, skipGap, isGap, ofJson]
  | .bool false, fuel + 1, r, _, _, _ => by simp [chars, scanValue, skipGap, isGap, ofJson]
  | .int n, fuel + 1, r, _, _, hr => by
      obtain ⟨m, hscan, hvalue⟩ := scanNumeral_intChars n hr
      obtain ⟨c, cs, hcs, hc⟩ := intChars_eq_cons n.val
      rw [chars, ofJson, ← hvalue]
      rw [hcs, List.cons_append] at hscan ⊢
      rw [scanValue_numeral fuel hc, hscan]
      rfl
  | .float x, fuel + 1, r, hfree, _, _ => by simp [floatFree] at hfree
  | .str s, fuel + 1, r, _, _, _ => by
      rw [chars, ofJson]
      exact scanValue_quoted s fuel r
  | .arr [], fuel + 1, r, _, _, _ => by simp [chars, scanValue, skipGap, isGap, ofJson, ofItems]
  | .arr (x :: xs), fuel + 1, r, hfree, hfuel, _ => by
      simp only [floatFree, floatFreeItems, Bool.and_eq_true] at hfree
      simp only [chars, List.length_cons, List.length_append] at hfuel
      have hx := scanValue_chars x fuel (itemChars xs ++ r) hfree.1 (by omega)
        (itemChars_ends xs r)
      have hxs := scanItems_chars xs fuel r hfree.2 (by omega)
      obtain ⟨c, cs, hcs, hc⟩ := chars_eq_cons hfree.1
      rw [chars, List.cons_append, List.append_assoc]
      exact scanValue_arr ⟨c, _, by rw [hcs]; rfl, hc⟩ hx (skipGap_itemChars xs r) hxs
  | .obj [], fuel + 1, r, _, _, _ => by
      simp [chars, scanValue, skipGap, isGap, ofJson, ofMembers]
  | .obj ((k, v) :: ms), fuel + 1, r, hfree, hfuel, _ => by
      simp only [floatFree, floatFreeMembers, Bool.and_eq_true] at hfree
      simp only [chars, quoteChars, List.length_cons, List.length_append] at hfuel
      obtain ⟨fuel, rfl⟩ : ∃ n, fuel = n + 1 := ⟨fuel - 1, by omega⟩
      have hv := scanValue_chars v fuel (memberChars ms ++ r) hfree.1 (by omega)
        (memberChars_ends ms r)
      have hmember := scanMember_quoted k v fuel (memberChars ms ++ r) hv
      have hms := scanMembers_chars ms (fuel + 1) r hfree.2 (by omega)
      have hquote : ∀ cs, skipGap (quoteChars k.toList ++ cs) = quoteChars k.toList ++ cs :=
        fun cs => skipGap_of_not_isGap (by decide) _
      simp only [chars, List.cons_append, List.append_assoc]
      rw [scanValue, skipGap_of_not_isGap (by decide)]
      simp only [hquote]
      split
      · next heq => simp [quoteChars] at heq
      · simp [hmember, skipGap_memberChars, hms, ofJson, ofMembers]

theorem scanItems_chars : ∀ (js : List Json) (fuel : Nat) (r : List Char),
    floatFreeItems js = true → (itemChars js).length ≤ fuel →
    scanItems fuel (itemChars js ++ r) = some (ofItems js, r)
  | js, 0, r, _, hfuel => by cases js <;> simp [itemChars] at hfuel
  | [], fuel + 1, r, _, _ => by simp [itemChars, scanItems, ofItems]
  | x :: xs, fuel + 1, r, hfree, hfuel => by
      simp only [floatFreeItems, Bool.and_eq_true] at hfree
      simp only [itemChars, List.length_cons, List.length_append] at hfuel
      have hx := scanValue_chars x fuel (itemChars xs ++ r) hfree.1 (by omega)
        (itemChars_ends xs r)
      have hxs := scanItems_chars xs fuel r hfree.2 (by omega)
      simp [itemChars, scanItems, hx, skipGap_itemChars, hxs, ofItems]

theorem scanMembers_chars : ∀ (ms : List (String × Json)) (fuel : Nat) (r : List Char),
    floatFreeMembers ms = true → (memberChars ms).length ≤ fuel →
    scanMembers fuel (memberChars ms ++ r) = some (ofMembers ms, r)
  | ms, 0, r, _, hfuel => by cases ms <;> simp [memberChars] at hfuel
  | [], fuel + 1, r, _, _ => by simp [memberChars, scanMembers, ofMembers]
  | (k, v) :: ms, fuel + 1, r, hfree, hfuel => by
      simp only [floatFreeMembers, Bool.and_eq_true] at hfree
      simp only [memberChars, quoteChars, List.length_cons, List.length_append] at hfuel
      obtain ⟨fuel, rfl⟩ : ∃ n, fuel = n + 1 := ⟨fuel - 1, by omega⟩
      have hv := scanValue_chars v fuel (memberChars ms ++ r) hfree.1 (by omega)
        (memberChars_ends ms r)
      have hmember := scanMember_quoted k v fuel (memberChars ms ++ r) hv
      have hms := scanMembers_chars ms (fuel + 1) r hfree.2 (by omega)
      simp only [memberChars, List.cons_append, List.append_assoc]
      rw [scanMembers, hmember]
      simp [skipGap_memberChars, hms, ofMembers]

end

/-! ### The value of a document -/

mutual

/-- The value of the document that has a value is that value, if it nests below the limit. -/
theorem toJsonWithin?_ofJson : ∀ (j : Json) (limit : Nat), j.ordered = true → j.depth < limit →
    toJsonWithin? limit (ofJson j) = some j
  | .null, limit, _, _ => rfl
  | .bool b, limit, _, _ => rfl
  | .int n, limit, _, _ => rfl
  | .float x, limit, _, _ => rfl
  | .str s, limit, _, _ => rfl
  | .arr items, limit, hordered, hdepth => by
      simp only [depth] at hdepth
      have hitems := itemsWithin?_ofItems items (limit - 1) hordered (by omega)
      rw [ofJson, toJsonWithin?, if_neg (by omega), hitems]
      rfl
  | .obj members, limit, hordered, hdepth => by
      simp only [depth] at hdepth
      simp only [ordered, Bool.and_eq_true, decide_eq_true_eq] at hordered
      have hmembers := membersWithin?_ofMembers members (limit - 1) hordered.2 (by omega)
      rw [ofJson, toJsonWithin?, if_neg (by omega), hmembers]
      simp [Entries.ofPairs_of_sorted hordered.1]

theorem itemsWithin?_ofItems : ∀ (js : List Json) (limit : Nat), orderedItems js = true →
    itemsDepth js < limit → itemsWithin? limit (ofItems js) = some js
  | [], limit, _, _ => rfl
  | j :: js, limit, hordered, hdepth => by
      simp only [orderedItems, Bool.and_eq_true] at hordered
      simp only [itemsDepth] at hdepth
      have hj := toJsonWithin?_ofJson j limit hordered.1 (by omega)
      have hjs := itemsWithin?_ofItems js limit hordered.2 (by omega)
      simp [ofItems, itemsWithin?, hj, hjs]

theorem membersWithin?_ofMembers : ∀ (ms : List (String × Json)) (limit : Nat),
    orderedMembers ms = true → membersDepth ms < limit →
    membersWithin? limit (ofMembers ms) = some ms
  | [], limit, _, _ => rfl
  | (k, j) :: ms, limit, hordered, hdepth => by
      simp only [orderedMembers, Bool.and_eq_true] at hordered
      simp only [membersDepth] at hdepth
      have hj := toJsonWithin?_ofJson j limit hordered.1 (by omega)
      have hms := membersWithin?_ofMembers ms limit hordered.2 (by omega)
      simp [ofMembers, membersWithin?, hj, hms]

end

/-- A text is a document where the scan leaves nothing behind. -/
theorem parse?_of_scanValue {s : String} {d : Document}
    (h : scanValue (3 * s.toList.length + 3) s.toList = some (d, [])) : parse? s = some d := by
  unfold parse?
  simp only [h]
  rfl

theorem parse?_compact {j : Json} (hfree : j.floatFree = true) :
    parse? j.compact = some (ofJson j) := by
  have hscan := scanValue_chars j (3 * (chars j).length + 3) [] hfree (by omega) ends_nil
  rw [List.append_nil] at hscan
  refine parse?_of_scanValue ?_
  rw [compact, String.toList_ofList]
  exact hscan

end Document

/-- The compact text of a plain value that nests below the limit is read as that value. -/
theorem Json.parse?_compact {j : Json} (h : j.Plain) (hdepth : j.depth < Document.nestingLimit) :
    Json.parse? j.compact = some j := by
  rw [Json.parse?, Document.parse?_compact h.floatFree]
  exact Document.toJsonWithin?_ofJson j _ h.ordered hdepth

end Faultline
