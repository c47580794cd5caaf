import Faultline.Proofs.Json.RoundTrip
import Faultline.Trail

/-!
# Trails and their texts

`parse?_text` states that the text of a trail is read as that trail, whatever its keys are, so
that equal texts name equal trails (`text_inj`).  The text is no compact text, since blanks stand
behind its commas; it is followed entry by entry with the lemmas of the scanner.
-/

namespace Faultline

namespace Trail

open Document Json

/-- A key and its count as they are written. -/
def entryChars (e : String × UInt64) : List Char :=
  '[' :: (quoteChars e.1.toList ++ ',' :: ' ' :: (Nat.toDigits 10 e.2.toNat ++ [']']))

/-- The entries behind the first, with the closing bracket. -/
def restChars : Trail → List Char
  | [] => [']']
  | e :: t => ',' :: ' ' :: (entryChars e ++ restChars t)

/-- An entry as a value. -/
def entryJson (e : String × UInt64) : Json :=
  .arr [.str e.1, .ofUInt64 e.2]

theorem toList_entryText (e : String × UInt64) : (entryText e).toList = entryChars e := by
  simp [entryText, entryChars, quote]

theorem toList_intercalate (e : String × UInt64) (t : Trail) :
    (String.intercalate ", " ((e :: t).map entryText)).toList ++ [']'] =
      entryChars e ++ restChars t := by
  induction t generalizing e with
  | nil => simp [restChars, toList_entryText]
  | cons e' t ih =>
      have hcons : (String.intercalate ", " ((e :: e' :: t).map entryText)).toList =
          entryChars e ++ ',' :: ' ' ::
            (String.intercalate ", " ((e' :: t).map entryText)).toList := by
        rw [List.map_cons, List.map_cons, String.intercalate_cons_cons]
        simp [toList_entryText]
      rw [hcons, restChars, ← ih e']
      simp

theorem toList_text_nil : (text []).toList = ['[', ']'] := by
  simp [text]

theorem toList_text_cons (e : String × UInt64) (t : Trail) :
    (text (e :: t)).toList = '[' :: (entryChars e ++ restChars t) := by
  rw [← toList_intercalate]
  simp [text]

/-- A blank in front of a value is passed over. -/
theorem scanValue_gap {c : Char} (h : isGap c = true) (fuel : Nat) (cs : List Char) :
    scanValue (fuel + 1) (c :: cs) = scanValue (fuel + 1) cs := by
  simp [scanValue, skipGap, h]

theorem chars_ofUInt64 (n : UInt64) : chars (.ofUInt64 n) = Nat.toDigits 10 n.toNat := by
  simp [Json.ofUInt64, Whole.ofUInt64, chars, intChars]

/-- An entry is read as the list of its key and its count. -/
theorem scanValue_entryChars (e : String × UInt64) (fuel : Nat) (r : List Char)
    (h : (entryChars e).length ≤ fuel) :
    scanValue fuel (entryChars e ++ r) = some (ofJson (entryJson e), r) := by
  simp only [entryChars, quoteChars, List.length_cons, List.length_append] at h
  obtain ⟨fuel, rfl⟩ : ∃ n, fuel = n + 3 := ⟨fuel - 3, by omega⟩
  have hkey := scanValue_quoted e.1 (fuel + 1)
    (',' :: ' ' :: (Nat.toDigits 10 e.2.toNat ++ ']' :: r))
  have hcount : scanValue (fuel + 1) (Nat.toDigits 10 e.2.toNat ++ ']' :: r) =
      some (ofJson (.ofUInt64 e.2), ']' :: r) := by
    rw [← chars_ofUInt64]
    exact scanValue_chars _ _ _ rfl (by rw [chars_ofUInt64]; omega) (ends_cons (by decide) _)
  have hgap : isGap ',' = false ∧ isGap ']' = false := by decide
  have hitems : scanItems (fuel + 2) (',' :: ' ' :: (Nat.toDigits 10 e.2.toNat ++ ']' :: r)) =
      some ([ofJson (.ofUInt64 e.2)], r) := by
    rw [scanItems, scanValue_gap (by decide), hcount]
    simp [skipGap_of_not_isGap hgap.2, scanItems]
  rw [entryChars, List.cons_append, List.append_assoc]
  simp only [List.cons_append, List.append_assoc, List.nil_append]
  exact scanValue_arr ⟨'"', _, rfl, by decide⟩ hkey (skipGap_of_not_isGap hgap.1 _) hitems

theorem scanItems_restChars (t : Trail) (fuel : Nat) (r : List Char)
    (h : (restChars t).length ≤ fuel) :
    scanItems fuel (restChars t ++ r) = some (ofItems (t.map entryJson), r) := by
  induction t generalizing fuel with
  | nil =>
      obtain ⟨fuel, rfl⟩ : ∃ n, fuel = n + 1 := ⟨fuel - 1, by simp [restChars] at h; omega⟩
      simp [restChars, scanItems, ofItems]
  | cons e t ih =>
      simp only [restChars, List.length_cons, List.length_append] at h
      obtain ⟨fuel, rfl⟩ : ∃ n, fuel = n + 2 := ⟨fuel - 2, by omega⟩
      have hentry := scanValue_entryChars e (fuel + 1) (restChars t ++ r) (by omega)
      have hrest := ih (fuel + 1) (by omega)
      have hgap : skipGap (restChars t ++ r) = restChars t ++ r := by
        cases t with
        | nil => exact skipGap_of_not_isGap (by decide) _
        | cons e' t => exact skipGap_of_not_isGap (by decide) _
      rw [restChars, List.cons_append, List.cons_append, List.append_assoc, scanItems,
        scanValue_gap (by decide), hentry]
      simp [hgap, hrest, ofItems]

/-- A trail as a value: the list of its entries. -/
def toJson (t : Trail) : Json :=
  .arr (t.map entryJson)

theorem document_parse?_text (t : Trail) : Document.parse? t.text = some (ofJson t.toJson) := by
  cases t with
  | nil =>
      have hscan : scanValue (3 * 2 + 3) ['[', ']'] = some (Document.arr [], []) := by
        simp [scanValue, skipGap, isGap]
      refine Document.parse?_of_scanValue ?_
      rw [toList_text_nil]
      exact hscan
  | cons e t =>
      have hentry := scanValue_entryChars e (3 * (text (e :: t)).toList.length + 2) (restChars t)
        (by rw [toList_text_cons]; simp; omega)
      have hrest := scanItems_restChars t (3 * (text (e :: t)).toList.length + 2) []
        (by rw [toList_text_cons]; simp; omega)
      have hgap : skipGap (restChars t) = restChars t := by
        cases t with
        | nil => exact skipGap_of_not_isGap (by decide) _
        | cons e' t => exact skipGap_of_not_isGap (by decide) _
      rw [List.append_nil] at hrest
      have hscan : scanValue (3 * (text (e :: t)).toList.length + 3) (text (e :: t)).toList =
          some (ofJson (toJson (e :: t)), []) := by
        have hread : scanValue (3 * (text (e :: t)).toList.length + 3)
            ('[' :: (entryChars e ++ restChars t)) = some (ofJson (toJson (e :: t)), []) :=
          scanValue_arr ⟨'[', _, rfl, by decide⟩ hentry hgap hrest
        rwa [← toList_text_cons e t] at hread
      exact Document.parse?_of_scanValue hscan

theorem ofJson?_toJson (t : Trail) : ofJson? t.toJson = some t := by
  simp only [ofJson?, toJson]
  induction t with
  | nil => rfl
  | cons e t ih => simp [entryJson, entryOfJson?, ih]

theorem trim_text (t : Trail) : Text.trim t.text ≠ "" := by
  have hchars : t.text.toList =
      '[' :: ((String.intercalate ", " (t.map entryText)).toList ++ [']']) := by
    simp [text]
  have hself : Text.trimChars t.text.toList = t.text.toList := by
    apply Text.trimChars_eq_self
    · intro c hc
      obtain rfl : '[' = c := by simpa [hchars] using hc
      decide
    · intro c hc
      rw [hchars, ← List.cons_append, List.getLast?_concat] at hc
      obtain rfl : ']' = c := by simpa using hc
      decide
  rw [Text.trim, hself, hchars]
  simp

theorem plain_toJson (t : Trail) : t.toJson.Plain := by
  apply plain_arr.2
  intro j hj
  obtain ⟨e, -, rfl⟩ := List.mem_map.1 hj
  exact ⟨rfl, rfl⟩

theorem depth_toJson (t : Trail) : t.toJson.depth < nestingLimit := by
  have hitems : itemsDepth (t.map entryJson) ≤ 1 := by
    rw [itemsDepth_le]
    intro j hj
    obtain ⟨e, -, rfl⟩ := List.mem_map.1 hj
    simp [entryJson, Json.ofUInt64, depth, itemsDepth]
  simp only [toJson, depth, nestingLimit]
  omega

/-- The text of a trail is read as that trail. -/
theorem parse?_text (t : Trail) : parse? t.text = some t := by
  have hjson : Json.parse? t.text = some t.toJson := by
    rw [Json.parse?, document_parse?_text]
    exact toJsonWithin?_ofJson _ _ t.plain_toJson.ordered t.depth_toJson
  rw [parse?, if_neg (trim_text t), hjson]
  exact ofJson?_toJson t

/-- Trails with the same text are the same. -/
theorem text_inj {t u : Trail} : t.text = u.text ↔ t = u := by
  constructor
  · intro h
    have hparse := parse?_text t
    rw [h, parse?_text] at hparse
    exact (Option.some.inj hparse).symm
  · rintro rfl
    rfl

end Trail

end Faultline
