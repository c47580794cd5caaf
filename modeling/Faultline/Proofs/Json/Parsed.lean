import Mathlib.Data.List.Induction
import Faultline.Proofs.Json.RoundTrip

/-!
# What reading yields

What a text is read as has its objects in key order, and no text in it is longer than the whole.
The scanner is followed first, with a bound on the characters ahead: a character of a text takes
at least one of them.  The value of a document then has the texts of the document, and `ofPairs`
puts its members in order.
-/

namespace Faultline

namespace Json

/-- A number, whole or not. -/
def isNumber : Json → Bool
  | int _ => true
  | float _ => true
  | _ => false

mutual

/-- No text that is a value is longer than a bound. -/
def textsWithin (n : Nat) : Json → Bool
  | str s => s.length ≤ n
  | arr items => itemsWithin n items
  | obj members => membersWithin n members
  | _ => true

def itemsWithin (n : Nat) : List Json → Bool
  | [] => true
  | j :: js => textsWithin n j && itemsWithin n js

def membersWithin (n : Nat) : List (String × Json) → Bool
  | [] => true
  | (_, j) :: ms => textsWithin n j && membersWithin n ms

end

theorem membersWithin_iff {n : Nat} {ms : List (String × Json)} :
    membersWithin n ms = true ↔ ∀ m ∈ ms, m.2.textsWithin n = true := by
  induction ms with
  | nil => simp [membersWithin]
  | cons m ms ih => simp [membersWithin, ih]

end Json

theorem Entries.mem_ofPairs {α : Type} {e : String × α} {l : List (String × α)}
    (h : e ∈ Entries.ofPairs l) : e ∈ l := by
  induction l using List.reverseRecOn with
  | nil => exact h
  | append_singleton l e' ih =>
      rw [Entries.ofPairs, List.foldl_append] at h
      rcases Entries.mem_insert h with rfl | h
      · simp
      · exact List.mem_append_left _ (ih h)

namespace Document

open Json

mutual

/-- Numbers are numbers, and no text is longer than a bound. -/
def fits (n : Nat) : Document → Bool
  | number value => value.all Json.isNumber
  | str s => s.all fun s => s.length ≤ n
  | arr items => itemsFit n items
  | obj members => membersFit n members
  | _ => true

def itemsFit (n : Nat) : List Document → Bool
  | [] => true
  | d :: ds => fits n d && itemsFit n ds

def membersFit (n : Nat) : List (Option String × Document) → Bool
  | [] => true
  | (_, d) :: ms => fits n d && membersFit n ms

end

/-! ### The characters left -/

theorem length_skipGap (cs : List Char) : (skipGap cs).length ≤ cs.length :=
  (List.dropWhile_suffix _).length_le

/-- What was read from fewer characters is no longer. -/
theorem quoted_le {cs cs' r : List Char} {t : Option String} {n n' : Nat}
    (h : r.length ≤ cs.length ∧ ∀ s ∈ t, s.length ≤ n + cs.length)
    (hcs : cs.length ≤ cs'.length) (hn : n + cs.length ≤ n' + cs'.length) :
    r.length ≤ cs'.length ∧ ∀ s ∈ t, s.length ≤ n' + cs'.length :=
  ⟨Nat.le_trans h.1 hcs, fun s hs => Nat.le_trans (h.2 s hs) hn⟩

/-- A character of a text takes at least one character between the quotes. -/
theorem length_scanQuoted {acc cs r : List Char} {whole : Bool} {t : Option String}
    (h : scanQuoted acc whole cs = some (t, r)) :
    r.length ≤ cs.length ∧ ∀ s ∈ t, s.length ≤ acc.length + cs.length := by
  fun_induction scanQuoted acc whole cs generalizing t r with
  | case1 acc whole => cases h
  | case2 acc whole cs =>
    obtain ⟨rfl, rfl⟩ := Prod.mk.inj (Option.some.inj h)
    refine ⟨by simp, fun s hs => ?_⟩
    split at hs
    · obtain rfl := Option.some.inj hs
      simp
    · cases hs
  | case3 acc whole a b c d cs lead trail plain =>
    obtain ⟨n, -, h⟩ := Option.bind_eq_some_iff.1 h
    split at h
    · replace lead := lead n
      split at h
      · obtain ⟨m, -, h⟩ := Option.bind_eq_some_iff.1 h
        split at h
        · exact quoted_le (lead.1 m h) (by simp; omega) (by simp; omega)
        · exact quoted_le (lead.2 h) (by simp) (by simp)
      · next hother =>
        split at lead
        · exact (hother _ _ _ _ _ rfl).elim
        · exact quoted_le (lead h) (by simp; omega) (by simp; omega)
    · split at h
      · exact quoted_le (trail h) (by simp; omega) (by simp; omega)
      · exact quoted_le (plain n h) (by simp; omega) (by simp; omega)
  | case4 acc whole e cs _ ih =>
    obtain ⟨c, -, h⟩ := Option.bind_eq_some_iff.1 h
    exact quoted_le (ih c h) (by simp; omega) (by simp; omega)
  | case5 => cases h
  | case6 acc whole c cs _ _ _ _ ih => exact quoted_le (ih h) (by simp) (by simp; omega)

theorem length_scanDigits (cs : List Char) : (scanDigits cs).2.length ≤ cs.length := by
  fun_induction scanDigits cs <;> grind

theorem length_scanWhole {cs r : List Char} {ds : List Nat} (h : scanWhole cs = some (ds, r)) :
    r.length ≤ cs.length := by
  have hdigits := length_scanDigits cs
  unfold scanWhole at h
  split at h <;> grind

theorem length_scanFraction {cs r : List Char} {ds : Option (List Nat)}
    (h : scanFraction cs = some (ds, r)) : r.length ≤ cs.length := by
  unfold scanFraction at h
  split at h
  · next r' =>
    have hdigits := length_scanDigits r'
    split at h <;> grind
  · grind

theorem length_scanExponent {cs r : List Char} {e : Option (Bool × List Nat)}
    (h : scanExponent cs = some (e, r)) : r.length ≤ cs.length := by
  unfold scanExponent at h
  split at h
  · next c r' =>
    split at h
    · split at h
      next minus digits heq =>
      have hsign : digits.length ≤ r'.length := by split at heq <;> grind
      have hdigits := length_scanDigits digits
      split at h <;> grind
    · grind
  · grind

theorem length_scanNumeral {cs r : List Char} {m : Numeral}
    (h : scanNumeral cs = some (m, r)) : r.length ≤ cs.length := by
  unfold scanNumeral at h
  split at h
  next negative digits heq =>
  have hsign : digits.length ≤ cs.length := by split at heq <;> grind
  obtain ⟨⟨whole, r₁⟩, hwhole, h⟩ := Option.bind_eq_some_iff.1 h
  obtain ⟨⟨fraction, r₂⟩, hfraction, h⟩ := Option.bind_eq_some_iff.1 h
  obtain ⟨⟨exponent, r₃⟩, hexponent, h⟩ := Option.bind_eq_some_iff.1 h
  have hwhole := length_scanWhole hwhole
  have hfraction := length_scanFraction hfraction
  have hexponent := length_scanExponent hexponent
  obtain ⟨-, rfl⟩ := Prod.mk.inj (Option.some.inj h)
  omega

/-- A numeral has a number as its value. -/
theorem isNumber_of_value? {m : Numeral} {j : Json} (h : m.value? = some j) :
    j.isNumber = true := by
  unfold Numeral.value? at h
  split at h
  split at h
  · split at h
    · split at h
      · obtain rfl := Option.some.inj h
        rfl
      · split at h <;> obtain rfl := Option.some.inj h <;> rfl
    · obtain ⟨w, -, rfl⟩ := Option.map_eq_some_iff.1 h
      rfl
  · dsimp only at h
    split at h <;> obtain ⟨x, -, rfl⟩ := Option.map_eq_some_iff.1 h <;> rfl

mutual

/-- What is left of the characters ahead, and the bound for the texts in what was read. -/
theorem fits_scanValue : ∀ {fuel n : Nat} {cs r : List Char} {d : Document},
    scanValue fuel cs = some (d, r) → cs.length ≤ n → r.length ≤ cs.length ∧ d.fits n = true
  | 0, n, cs, r, d, h, hn => by simp [scanValue] at h
  | fuel + 1, n, cs, r, d, h, hn => by
      have hgap := length_skipGap cs
      rw [scanValue] at h
      generalize skipGap cs = cs' at h hgap
      split at h
      · obtain ⟨rfl, rfl⟩ := Prod.mk.inj (Option.some.inj h)
        exact ⟨by simp at hgap; omega, rfl⟩
      · obtain ⟨rfl, rfl⟩ := Prod.mk.inj (Option.some.inj h)
        exact ⟨by simp at hgap; omega, rfl⟩
      · obtain ⟨rfl, rfl⟩ := Prod.mk.inj (Option.some.inj h)
        exact ⟨by simp at hgap; omega, rfl⟩
      · next body =>
        obtain ⟨⟨t, r'⟩, hquoted, h⟩ := Option.map_eq_some_iff.1 h
        obtain ⟨rfl, rfl⟩ := Prod.mk.inj h
        obtain ⟨hr, ht⟩ := length_scanQuoted hquoted
        simp only [List.length_cons, List.length_nil] at hgap ht
        refine ⟨by omega, ?_⟩
        cases t with
        | none => rfl
        | some t => simpa [fits] using Nat.le_trans (ht t rfl) (by omega)
      · next body =>
        simp only [List.length_cons] at hgap
        have hbody := length_skipGap body
        split at h
        · next heq =>
          obtain ⟨rfl, rfl⟩ := Prod.mk.inj (Option.some.inj h)
          rw [heq, List.length_cons] at hbody
          exact ⟨by omega, rfl⟩
        · obtain ⟨⟨d₀, r₁⟩, hfirst, h⟩ := Option.bind_eq_some_iff.1 h
          obtain ⟨⟨ds, r₂⟩, hrest, h⟩ := Option.bind_eq_some_iff.1 h
          obtain ⟨rfl, rfl⟩ := Prod.mk.inj (Option.some.inj h)
          have hblank := length_skipGap r₁
          obtain ⟨hr₁, hd₀⟩ := fits_scanValue hfirst (n := n) (by omega)
          obtain ⟨hr₂, hds⟩ := fits_scanItems hrest (n := n) (by omega)
          exact ⟨by omega, by simp [fits, itemsFit, hd₀, hds]⟩
      · next body =>
        simp only [List.length_cons] at hgap
        have hbody := length_skipGap body
        split at h
        · next heq =>
          obtain ⟨rfl, rfl⟩ := Prod.mk.inj (Option.some.inj h)
          rw [heq, List.length_cons] at hbody
          exact ⟨by omega, rfl⟩
        · obtain ⟨⟨m, r₁⟩, hfirst, h⟩ := Option.bind_eq_some_iff.1 h
          obtain ⟨⟨ms, r₂⟩, hrest, h⟩ := Option.bind_eq_some_iff.1 h
          obtain ⟨rfl, rfl⟩ := Prod.mk.inj (Option.some.inj h)
          have hblank := length_skipGap r₁
          obtain ⟨hr₁, hm⟩ := fits_scanMember hfirst (n := n) (by omega)
          obtain ⟨hr₂, hms⟩ := fits_scanMembers hrest (n := n) (by omega)
          exact ⟨by omega, by simp [fits, membersFit, hm, hms]⟩
      · obtain ⟨⟨m, r'⟩, hnumeral, h⟩ := Option.map_eq_some_iff.1 h
        obtain ⟨rfl, rfl⟩ := Prod.mk.inj h
        refine ⟨Nat.le_trans (length_scanNumeral hnumeral) hgap, ?_⟩
        cases hvalue : m.value? with
        | none => rfl
        | some j => simpa [fits] using isNumber_of_value? hvalue

theorem fits_scanItems : ∀ {fuel n : Nat} {cs r : List Char} {ds : List Document},
    scanItems fuel cs = some (ds, r) → cs.length ≤ n → r.length ≤ cs.length ∧ itemsFit n ds = true
  | 0, n, cs, r, ds, h, hn => by simp [scanItems] at h
  | fuel + 1, n, cs, r, ds, h, hn => by
      unfold scanItems at h
      split at h
      · obtain ⟨rfl, rfl⟩ := Prod.mk.inj (Option.some.inj h)
        exact ⟨by simp, rfl⟩
      · next body =>
        obtain ⟨⟨d, r₁⟩, hfirst, h⟩ := Option.bind_eq_some_iff.1 h
        obtain ⟨⟨ds, r₂⟩, hrest, h⟩ := Option.bind_eq_some_iff.1 h
        obtain ⟨rfl, rfl⟩ := Prod.mk.inj (Option.some.inj h)
        simp only [List.length_cons] at hn ⊢
        have hblank := length_skipGap r₁
        obtain ⟨hr₁, hd⟩ := fits_scanValue hfirst (n := n) (by omega)
        obtain ⟨hr₂, hds⟩ := fits_scanItems hrest (n := n) (by omega)
        exact ⟨by omega, by simp [itemsFit, hd, hds]⟩
      · cases h

theorem fits_scanMember : ∀ {fuel n : Nat} {cs r : List Char} {m : Option String × Document},
    scanMember fuel cs = some (m, r) → cs.length ≤ n →
      r.length ≤ cs.length ∧ m.2.fits n = true
  | 0, n, cs, r, m, h, hn => by simp [scanMember] at h
  | fuel + 1, n, cs, r, m, h, hn => by
      have hgap := length_skipGap cs
      unfold scanMember at h
      split at h
      · next body heq =>
        rw [heq, List.length_cons] at hgap
        obtain ⟨⟨name, r₁⟩, hquoted, h⟩ := Option.bind_eq_some_iff.1 h
        obtain ⟨hr₁, -⟩ := length_scanQuoted hquoted
        have hblank := length_skipGap r₁
        dsimp only at h
        split at h
        · next value heq =>
          rw [heq, List.length_cons] at hblank
          obtain ⟨⟨d, r₂⟩, hvalue, h⟩ := Option.bind_eq_some_iff.1 h
          obtain ⟨rfl, rfl⟩ := Prod.mk.inj (Option.some.inj h)
          obtain ⟨hr₂, hd⟩ := fits_scanValue hvalue (n := n) (by omega)
          exact ⟨by dsimp only; omega, hd⟩
        · cases h
      · cases h

theorem fits_scanMembers : ∀ {fuel n : Nat} {cs r : List Char}
    {ms : List (Option String × Document)}, scanMembers fuel cs = some (ms, r) → cs.length ≤ n →
      r.length ≤ cs.length ∧ membersFit n ms = true
  | 0, n, cs, r, ms, h, hn => by simp [scanMembers] at h
  | fuel + 1, n, cs, r, ms, h, hn => by
      unfold scanMembers at h
      split at h
      · obtain ⟨rfl, rfl⟩ := Prod.mk.inj (Option.some.inj h)
        exact ⟨by simp, rfl⟩
      · next body =>
        obtain ⟨⟨m, r₁⟩, hfirst, h⟩ := Option.bind_eq_some_iff.1 h
        obtain ⟨⟨ms, r₂⟩, hrest, h⟩ := Option.bind_eq_some_iff.1 h
        obtain ⟨rfl, rfl⟩ := Prod.mk.inj (Option.some.inj h)
        simp only [List.length_cons] at hn ⊢
        have hblank := length_skipGap r₁
        obtain ⟨hr₁, hm⟩ := fits_scanMember hfirst (n := n) (by omega)
        obtain ⟨hr₂, hms⟩ := fits_scanMembers hrest (n := n) (by omega)
        exact ⟨by omega, by simp [membersFit, hm, hms]⟩
      · cases h

end

/-! ### The value of a document -/

mutual

/-- The value of a document has its objects in order, and its texts are those of the document. -/
theorem toJsonWithin?_fits : ∀ {d : Document} {limit n : Nat} {j : Json},
    toJsonWithin? limit d = some j → d.fits n = true → j.ordered = true ∧ j.textsWithin n = true
  | null, limit, n, j, h, hd => by
      obtain rfl := Option.some.inj h
      exact ⟨rfl, rfl⟩
  | bool b, limit, n, j, h, hd => by
      obtain rfl := Option.some.inj h
      exact ⟨rfl, rfl⟩
  | number value, limit, n, j, h, hd => by
      obtain rfl : value = some j := h
      cases j <;> first | exact ⟨rfl, rfl⟩ | cases hd
  | str s, limit, n, j, h, hd => by
      obtain ⟨s, rfl, rfl⟩ := Option.map_eq_some_iff.1 h
      exact ⟨rfl, hd⟩
  | arr ds, limit, n, j, h, hd => by
      rw [toJsonWithin?] at h
      split at h
      · cases h
      · obtain ⟨js, hjs, rfl⟩ := Option.map_eq_some_iff.1 h
        exact itemsWithin?_fits hjs hd
  | obj ms, limit, n, j, h, hd => by
      rw [toJsonWithin?] at h
      split at h
      · cases h
      · obtain ⟨ns, hns, rfl⟩ := Option.map_eq_some_iff.1 h
        obtain ⟨hordered, htexts⟩ := membersWithin?_fits hns hd
        have hsub : ∀ m ∈ Entries.ofPairs ns, m ∈ ns := fun m hm => Entries.mem_ofPairs hm
        simp only [ordered, textsWithin, Entries.sorted_ofPairs, decide_true, Bool.true_and]
        exact ⟨orderedMembers_iff.2 fun m hm => orderedMembers_iff.1 hordered m (hsub m hm),
          membersWithin_iff.2 fun m hm => membersWithin_iff.1 htexts m (hsub m hm)⟩

theorem itemsWithin?_fits : ∀ {ds : List Document} {limit n : Nat} {js : List Json},
    itemsWithin? limit ds = some js → itemsFit n ds = true →
      orderedItems js = true ∧ Json.itemsWithin n js = true
  | [], limit, n, js, h, hd => by
      obtain rfl := Option.some.inj h
      exact ⟨rfl, rfl⟩
  | d :: ds, limit, n, js, h, hd => by
      obtain ⟨j, hj, h⟩ := Option.bind_eq_some_iff.1 h
      obtain ⟨js, hjs, h⟩ := Option.bind_eq_some_iff.1 h
      obtain rfl := Option.some.inj h
      simp only [itemsFit, Bool.and_eq_true] at hd
      obtain ⟨hordered, htexts⟩ := toJsonWithin?_fits hj hd.1
      obtain ⟨hordered', htexts'⟩ := itemsWithin?_fits hjs hd.2
      simp [orderedItems, Json.itemsWithin, *]

theorem membersWithin?_fits : ∀ {ms : List (Option String × Document)} {limit n : Nat}
    {ns : List (String × Json)}, membersWithin? limit ms = some ns → membersFit n ms = true →
      orderedMembers ns = true ∧ Json.membersWithin n ns = true
  | [], limit, n, ns, h, hd => by
      obtain rfl := Option.some.inj h
      exact ⟨rfl, rfl⟩
  | (name, d) :: ms, limit, n, ns, h, hd => by
      obtain ⟨k, -, h⟩ := Option.bind_eq_some_iff.1 h
      obtain ⟨j, hj, h⟩ := Option.bind_eq_some_iff.1 h
      obtain ⟨ns, hns, h⟩ := Option.bind_eq_some_iff.1 h
      obtain rfl := Option.some.inj h
      simp only [membersFit, Bool.and_eq_true] at hd
      obtain ⟨hordered, htexts⟩ := toJsonWithin?_fits hj hd.1
      obtain ⟨hordered', htexts'⟩ := membersWithin?_fits hns hd.2
      simp [orderedMembers, Json.membersWithin, *]

end

/-- What a text is read as has its objects in order, and no text in it is longer. -/
theorem fits_of_parse? {s : String} {d : Document} (h : parse? s = some d) :
    d.fits s.length = true := by
  obtain ⟨⟨d', r⟩, hscan, h⟩ := Option.bind_eq_some_iff.1 h
  obtain ⟨-, hfits⟩ := fits_scanValue hscan (Nat.le_of_eq String.length_toList)
  dsimp only at h
  split at h
  · obtain rfl := Option.some.inj h
    exact hfits
  · cases h

end Document

namespace Json

theorem parse?_ordered {s : String} {j : Json} (h : Json.parse? s = some j) :
    j.ordered = true ∧ j.textsWithin s.length = true := by
  obtain ⟨d, hd, h⟩ := Option.bind_eq_some_iff.1 h
  exact Document.toJsonWithin?_fits h (Document.fits_of_parse? hd)

end Json

end Faultline
