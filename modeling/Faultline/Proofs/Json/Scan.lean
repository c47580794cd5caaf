import Faultline.Json.Parser
import Faultline.Json.Printer

/-!
# Scanning what was printed

The scanners of texts and of whole numerals read back what the printer writes, and leave what
stands behind it.  A quoted text ends at its own quote whatever follows; a numeral ends where
the next character could not go on with it, which is what `Ends` says.
-/

namespace Faultline

namespace Document

open Json

/-! ### Quoted texts -/

theorem unit?_hexDigit {n : Nat} (h : n < 32) :
    unit? '0' '0' (hexDigit (n / 16)) (hexDigit (n % 16)) = some n := by
  revert h
  revert n
  decide

/-- One character between quotes, escaped or not, is read as itself. -/
theorem scanQuoted_escapeChar (acc : List Char) (c : Char) (r : List Char) :
    scanQuoted acc true (escapeChar c ++ r) = scanQuoted (c :: acc) true r := by
  unfold escapeChar
  split
  · next h => subst h; simp [scanQuoted, shortEscape?]
  split
  · next h => subst h; simp [scanQuoted, shortEscape?]
  split
  · next h => subst h; simp [scanQuoted, shortEscape?]
  split
  · next h => subst h; simp [scanQuoted, shortEscape?]
  split
  · next h => subst h; simp [scanQuoted, shortEscape?]
  split
  · next h =>
    have hc : c = '\x08' := Char.toNat_inj.1 h
    subst hc
    simp [scanQuoted, shortEscape?]
  split
  · next h =>
    have hc : c = '\x0c' := Char.toNat_inj.1 h
    subst hc
    simp [scanQuoted, shortEscape?]
  split
  · next h =>
    have hunit := unit?_hexDigit h
    have hlead : isLead c.toNat = false := by simp [isLead]; omega
    have htrail : isTrail c.toNat = false := by simp [isTrail]; omega
    simp only [List.cons_append, List.nil_append]
    rw [scanQuoted, hunit]
    simp [hlead, htrail]
  · next hquote hback _ _ _ _ _ hcontrol =>
    simp only [List.cons_append, List.nil_append]
    rw [scanQuoted]
    · simp [hback, hcontrol]
    · exact hquote
    · exact fun _ _ _ _ _ h => absurd h hback
    · exact fun _ _ h => absurd h hback

theorem scanQuoted_escaped (acc cs r : List Char) :
    scanQuoted acc true (cs.flatMap escapeChar ++ '"' :: r) =
      some (some (String.ofList (acc.reverse ++ cs)), r) := by
  induction cs generalizing acc with
  | nil => simp [scanQuoted]
  | cons c cs ih =>
      rw [List.flatMap_cons, List.append_assoc, scanQuoted_escapeChar, ih]
      simp

/-- A quoted text is read back up to its closing quote. -/
theorem scanQuoted_quoteChars (s : String) (r : List Char) :
    ∃ body, quoteChars s.toList ++ r = '"' :: body ∧
      scanQuoted [] true body = some (some s, r) := by
  refine ⟨s.toList.flatMap escapeChar ++ '"' :: r, by simp [quoteChars], ?_⟩
  rw [scanQuoted_escaped]
  simp

/-! ### Whole numerals -/

/-- A character that goes on with a numeral. -/
def isNumeric (c : Char) : Bool :=
  c.isDigit || c == '.' || c == 'e' || c == 'E'

/-- What stands behind a numeral does not go on with it. -/
def Ends (r : List Char) : Prop :=
  ∀ c ∈ r.head?, isNumeric c = false

theorem ends_nil : Ends [] := by simp [Ends]

theorem ends_cons {c : Char} (h : isNumeric c = false) (r : List Char) : Ends (c :: r) := by
  intro d hd
  obtain rfl : c = d := by simpa using hd
  exact h

theorem digit?_eq_some {c : Char} (h : c.isDigit = true) : digit? c = some (c.toNat - 48) := by
  have : '0' ≤ c ∧ c ≤ '9' := by
    simpa [Char.isDigit, Char.le_def, UInt32.le_iff_toNat_le] using h
  simp [digit?, this]

theorem digit?_eq_none {c : Char} (h : c.isDigit = false) : digit? c = none := by
  have : ¬('0' ≤ c ∧ c ≤ '9') := by
    simpa [Char.isDigit, Char.le_def, UInt32.le_iff_toNat_le] using h
  simp [digit?, this]

/-- The values of digits. -/
def values (cs : List Char) : List Nat :=
  cs.map fun c => c.toNat - 48

theorem scanDigits_append {cs r : List Char} (hcs : ∀ c ∈ cs, c.isDigit = true) (hr : Ends r) :
    scanDigits (cs ++ r) = (values cs, r) := by
  induction cs with
  | nil =>
      cases r with
      | nil => rfl
      | cons c r =>
          have hc : isNumeric c = false := hr c (by simp)
          have hdigit : c.isDigit = false := by
            revert hc; cases h : c.isDigit <;> simp [isNumeric, h]
          simp [scanDigits, digit?_eq_none hdigit, values]
  | cons c cs ih =>
      have htail := ih fun d hd => hcs d (List.mem_cons_of_mem c hd)
      simp [scanDigits, digit?_eq_some (hcs c (by simp)), htail, values]

theorem isDigit_of_mem_toDigits {n : Nat} {c : Char} (h : c ∈ Nat.toDigits 10 n) :
    c.isDigit = true :=
  Nat.isDigit_of_mem_toDigits (by decide) (by decide) h

/-- A zero in front of a numeral is the whole numeral. -/
theorem toDigits_eq_zero_cons {n : Nat} {cs : List Char} (h : Nat.toDigits 10 n = '0' :: cs) :
    cs = [] := by
  induction n using Nat.strongRecOn generalizing cs with
  | _ n ih =>
      by_cases hn : n < 10
      · rw [Nat.toDigits_of_lt_base hn] at h
        exact (List.cons.inj h).2.symm
      · have hle : 10 ≤ n := Nat.le_of_not_lt hn
        rw [Nat.toDigits_of_base_le (by decide) hle] at h
        cases hhigh : Nat.toDigits 10 (n / 10) with
        | nil => exact absurd hhigh Nat.toDigits_ne_nil
        | cons d ds =>
            rw [hhigh, List.cons_append] at h
            obtain ⟨rfl, -⟩ := List.cons.inj h
            have hds := ih (n / 10) (by omega) hhigh
            subst hds
            have hvalue := Nat.ofDigitChars_ten_toDigits (n := n / 10)
            rw [hhigh] at hvalue
            simp [Nat.ofDigitChars] at hvalue
            omega

theorem values_toDigits (n : Nat) :
    values (Nat.toDigits 10 n) = [0] ∨ ∃ d ds, values (Nat.toDigits 10 n) = d :: ds ∧ d ≠ 0 := by
  cases h : Nat.toDigits 10 n with
  | nil => exact absurd h Nat.toDigits_ne_nil
  | cons c cs =>
      by_cases hc : c = '0'
      · subst hc
        rw [toDigits_eq_zero_cons h]
        exact .inl rfl
      · refine .inr ⟨c.toNat - 48, values cs, rfl, ?_⟩
        have hdigit : c.isDigit = true := isDigit_of_mem_toDigits (h ▸ List.mem_cons_self)
        have hne : c.toNat ≠ 48 := fun heq => hc (Char.toNat_inj.1 heq)
        have hle : 48 ≤ c.toNat := by
          have := (Char.isDigit_iff_toNat.1 hdigit).1
          simpa using this
        omega

theorem scanWhole_toDigits (n : Nat) {r : List Char} (hr : Ends r) :
    scanWhole (Nat.toDigits 10 n ++ r) = some (values (Nat.toDigits 10 n), r) := by
  unfold scanWhole
  rw [scanDigits_append (fun c hc => isDigit_of_mem_toDigits hc) hr]
  rcases values_toDigits n with h | ⟨d, ds, h, hd⟩
  · simp [h]
  · rw [h]
    cases d with
    | zero => exact absurd rfl hd
    | succ d => rfl

theorem scanFraction_of_ends {r : List Char} (hr : Ends r) : scanFraction r = some (none, r) := by
  unfold scanFraction
  split
  · exact absurd (hr '.' (by simp)) (by decide)
  · rfl

theorem scanExponent_of_ends {r : List Char} (hr : Ends r) : scanExponent r = some (none, r) := by
  cases r with
  | nil => rfl
  | cons c r =>
      have hc : isNumeric c = false := hr c (by simp)
      have hne : c ≠ 'e' ∧ c ≠ 'E' := by
        constructor <;> (rintro rfl; revert hc; decide)
      simp [scanExponent, hne]

/-- The digits taken into a word are its value, as long as that fits. -/
theorem absorb_eq (acc : Nat) (ds : List Nat)
    (h : ds.foldl (fun acc d => acc * 10 + d) acc < 0x10000000000000000) :
    Numeral.absorb acc ds = (ds.foldl (fun acc d => acc * 10 + d) acc, []) := by
  have grows : ∀ (ds : List Nat) (acc : Nat), acc ≤ ds.foldl (fun acc d => acc * 10 + d) acc := by
    intro ds
    induction ds with
    | nil => exact fun _ => Nat.le_refl _
    | cons d ds ih => exact fun acc => Nat.le_trans (by omega) (ih (acc * 10 + d))
  induction ds generalizing acc with
  | nil => rfl
  | cons d ds ih =>
      rw [List.foldl_cons] at h ⊢
      have hnext := Nat.lt_of_le_of_lt (grows ds (acc * 10 + d)) h
      rw [Numeral.absorb]
      simp only [hnext, if_true]
      exact ih _ h

theorem absorb_toDigits {n : Nat} (h : n < 0x10000000000000000) :
    Numeral.absorb 0 (values (Nat.toDigits 10 n)) = (n, []) := by
  have hvalue : (values (Nat.toDigits 10 n)).foldl (fun acc d => acc * 10 + d) 0 = n := by
    have := Nat.ofDigitChars_ten_toDigits (n := n)
    rw [Nat.ofDigitChars] at this
    rw [values, List.foldl_map]
    simpa [Nat.mul_comm] using this
  rw [absorb_eq 0 _ (by rw [hvalue]; exact h), hvalue]

theorem scanNumeral_toDigits (n : Nat) {r : List Char} (hr : Ends r) :
    scanNumeral (Nat.toDigits 10 n ++ r) =
      some (⟨false, values (Nat.toDigits 10 n), none, none⟩, r) := by
  have hsign : ∀ r', Nat.toDigits 10 n ++ r ≠ '-' :: r' := by
    intro r' h
    cases hd : Nat.toDigits 10 n with
    | nil => exact absurd hd Nat.toDigits_ne_nil
    | cons c cs =>
        rw [hd, List.cons_append] at h
        obtain ⟨rfl, -⟩ := List.cons.inj h
        exact absurd (isDigit_of_mem_toDigits (hd ▸ List.mem_cons_self)) (by decide)
  unfold scanNumeral
  split
  next negative cs heq =>
    split at heq
    · next r' h => exact absurd h (hsign r')
    · obtain ⟨rfl, rfl⟩ := Prod.mk.inj heq
      simp [scanWhole_toDigits n hr, scanFraction_of_ends hr, scanExponent_of_ends hr]

theorem scanNumeral_minus (n : Nat) {r : List Char} (hr : Ends r) :
    scanNumeral ('-' :: (Nat.toDigits 10 n ++ r)) =
      some (⟨true, values (Nat.toDigits 10 n), none, none⟩, r) := by
  simp [scanNumeral, scanWhole_toDigits n hr, scanFraction_of_ends hr, scanExponent_of_ends hr]

/-- The numeral of a whole number is read as that number. -/
theorem scanNumeral_intChars (n : Whole) {r : List Char} (hr : Ends r) :
    ∃ m, scanNumeral (intChars n.val ++ r) = some (m, r) ∧ m.value? = some (.int n) := by
  have hlower := n.lower
  have hupper := n.upper
  unfold intChars
  by_cases hneg : n.val < 0
  · have hword := absorb_toDigits (n := n.val.natAbs) (by omega)
    have hwhole : Whole.ofInt? (-(n.val.natAbs : Int)) = some n := by
      have hval : -(n.val.natAbs : Int) = n.val := by omega
      simp only [Whole.ofInt?, hval, hlower, hupper, and_self, dif_pos]
    refine ⟨_, by rw [if_pos hneg]; exact scanNumeral_minus _ hr, ?_⟩
    simp only [Numeral.value?, hword, hwhole, if_true]
    rw [if_neg (by omega)]
  · have hword := absorb_toDigits (n := n.val.natAbs) (by omega)
    have hwhole : Whole.ofInt? (n.val.natAbs : Int) = some n := by
      have hval : (n.val.natAbs : Int) = n.val := by omega
      simp only [Whole.ofInt?, hval, hlower, hupper, and_self, dif_pos]
    refine ⟨_, by rw [if_neg hneg]; exact scanNumeral_toDigits _ hr, ?_⟩
    simp only [Numeral.value?, hword, hwhole, Bool.false_eq_true, if_false, Option.map_some]

end Document

end Faultline
