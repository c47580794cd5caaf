import Faultline.Proofs.Clock
import Faultline.Server

/-!
# Texts of clocks

A clock is read back from its text, whatever its services are called and however large its
counters are.  A server keeps clocks in their normal form: the texts that it leaves as they are are
the texts of clocks (`normalClock_eq_self_iff`), and what it makes of any other text is one of
these.
-/

namespace Faultline

theorem Server.normalClock_text (c : Clock) : normalClock (some c.text) = c.text := by
  rw [normalClock, Option.map_some, Option.getD_some, Clock.parse_text]

theorem Server.normalClock_eq_self_iff {s : String} :
    normalClock (some s) = s ↔ ∃ c : Clock, c.text = s := by
  constructor
  · exact fun h => ⟨_, h⟩
  · rintro ⟨c, rfl⟩
    exact normalClock_text c

open Server

/-- The text of a clock is read as that clock, so that clocks are equal exactly when their texts
are.  The normal form of any text, or of none, is in normal form, as is the text of a clock. -/
theorem Clock.text_codec (c d : Clock) :
    parse? c.text = some c ∧ (c = d ↔ c.text = d.text) ∧
      (∀ t, normalClock (some (normalClock t)) = normalClock t) ∧
      normalClock (some c.text) = c.text ∧
      ∀ s, normalClock (some s) = s ↔ ∃ e : Clock, e.text = s :=
  ⟨parse?_text c, text_inj.symm, fun _ => normalClock_eq_self_iff.2 ⟨_, rfl⟩, normalClock_text c,
    fun _ => normalClock_eq_self_iff⟩

end Faultline
