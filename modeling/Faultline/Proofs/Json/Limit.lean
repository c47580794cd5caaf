import Faultline.Proofs.Json.Parsed

/-!
# The limit of nesting

The compact text of a plain value is read back exactly when the value nests below the limit
(`parse?_compact_iff`).  A value that nests deeper is refused, and not read as another one.
Whatever a text is read as nests below the limit (`depth_lt_of_parse?`).
-/

namespace Faultline

namespace Document

open Json

mutual

/-- A value that a document has nests below the limit. -/
theorem depth_lt_of_toJsonWithin? : ∀ {j k : Json} {limit : Nat}, 0 < limit →
    toJsonWithin? limit (ofJson j) = some k → j.depth < limit
  | .null, _, _, hlimit, _ => hlimit
  | .bool _, _, _, hlimit, _ => hlimit
  | .int _, _, _, hlimit, _ => hlimit
  | .float _, _, _, hlimit, _ => hlimit
  | .str _, _, _, hlimit, _ => hlimit
  | .arr items, k, limit, _, h => by
      rw [ofJson, toJsonWithin?] at h
      split at h
      · cases h
      · obtain ⟨ks, hks, -⟩ := Option.map_eq_some_iff.1 h
        have hitems : itemsDepth items < limit - 1 :=
          itemsDepth_lt_of_itemsWithin? (by omega) hks
        rw [depth]
        omega
  | .obj members, k, limit, _, h => by
      rw [ofJson, toJsonWithin?] at h
      split at h
      · cases h
      · obtain ⟨ks, hks, -⟩ := Option.map_eq_some_iff.1 h
        have hmembers : membersDepth members < limit - 1 :=
          membersDepth_lt_of_membersWithin? (by omega) hks
        rw [depth]
        omega

theorem itemsDepth_lt_of_itemsWithin? : ∀ {js ks : List Json} {limit : Nat}, 0 < limit →
    itemsWithin? limit (ofItems js) = some ks → itemsDepth js < limit
  | [], _, _, hlimit, _ => hlimit
  | j :: js, ks, limit, hlimit, h => by
      obtain ⟨k, hk, h⟩ := Option.bind_eq_some_iff.1 h
      obtain ⟨ks', hks, -⟩ := Option.bind_eq_some_iff.1 h
      exact Nat.max_lt.2 ⟨depth_lt_of_toJsonWithin? hlimit hk,
        itemsDepth_lt_of_itemsWithin? hlimit hks⟩

theorem membersDepth_lt_of_membersWithin? : ∀ {ms ns : List (String × Json)} {limit : Nat},
    0 < limit → membersWithin? limit (ofMembers ms) = some ns → membersDepth ms < limit
  | [], _, _, hlimit, _ => hlimit
  | (k, j) :: ms, ns, limit, hlimit, h => by
      obtain ⟨value, hvalue, h⟩ := Option.bind_eq_some_iff.1 h
      obtain ⟨rest, hrest, -⟩ := Option.bind_eq_some_iff.1 h
      exact Nat.max_lt.2 ⟨depth_lt_of_toJsonWithin? hlimit hvalue,
        membersDepth_lt_of_membersWithin? hlimit hrest⟩

end

mutual

/-- The value of a document that was scanned nests below the limit, since its numbers are
numbers. -/
theorem depth_lt_of_fits : ∀ {d : Document} {limit n : Nat} {j : Json}, 0 < limit →
    toJsonWithin? limit d = some j → d.fits n = true → j.depth < limit
  | null, limit, n, j, hlimit, h, hd => by
      obtain rfl := Option.some.inj h
      exact hlimit
  | bool b, limit, n, j, hlimit, h, hd => by
      obtain rfl := Option.some.inj h
      exact hlimit
  | number value, limit, n, j, hlimit, h, hd => by
      obtain rfl : value = some j := h
      cases j <;> first | exact hlimit | cases hd
  | str s, limit, n, j, hlimit, h, hd => by
      obtain ⟨s, rfl, rfl⟩ := Option.map_eq_some_iff.1 h
      exact hlimit
  | arr ds, limit, n, j, hlimit, h, hd => by
      rw [toJsonWithin?] at h
      split at h
      · cases h
      · obtain ⟨js, hjs, rfl⟩ := Option.map_eq_some_iff.1 h
        have hitems : itemsDepth js < limit - 1 := itemsDepth_lt_of_fits (by omega) hjs hd
        rw [depth]
        omega
  | obj ms, limit, n, j, hlimit, h, hd => by
      rw [toJsonWithin?] at h
      split at h
      · cases h
      · obtain ⟨ns, hns, rfl⟩ := Option.map_eq_some_iff.1 h
        have hmembers : membersDepth ns < limit - 1 := membersDepth_lt_of_fits (by omega) hns hd
        have hpairs : membersDepth (Entries.ofPairs ns) ≤ membersDepth ns :=
          membersDepth_le.2 fun m hm => membersDepth_le.1 (Nat.le_refl _) m (Entries.mem_ofPairs hm)
        rw [depth]
        omega

theorem itemsDepth_lt_of_fits : ∀ {ds : List Document} {limit n : Nat} {js : List Json},
    0 < limit → itemsWithin? limit ds = some js → itemsFit n ds = true → itemsDepth js < limit
  | [], limit, n, js, hlimit, h, hd => by
      obtain rfl := Option.some.inj h
      exact hlimit
  | d :: ds, limit, n, js, hlimit, h, hd => by
      obtain ⟨j, hj, h⟩ := Option.bind_eq_some_iff.1 h
      obtain ⟨js, hjs, h⟩ := Option.bind_eq_some_iff.1 h
      obtain rfl := Option.some.inj h
      simp only [itemsFit, Bool.and_eq_true] at hd
      exact Nat.max_lt.2
        ⟨depth_lt_of_fits hlimit hj hd.1, itemsDepth_lt_of_fits hlimit hjs hd.2⟩

theorem membersDepth_lt_of_fits : ∀ {ms : List (Option String × Document)} {limit n : Nat}
    {ns : List (String × Json)}, 0 < limit → membersWithin? limit ms = some ns →
      membersFit n ms = true → membersDepth ns < limit
  | [], limit, n, ns, hlimit, h, hd => by
      obtain rfl := Option.some.inj h
      exact hlimit
  | (name, d) :: ms, limit, n, ns, hlimit, h, hd => by
      obtain ⟨k, -, h⟩ := Option.bind_eq_some_iff.1 h
      obtain ⟨j, hj, h⟩ := Option.bind_eq_some_iff.1 h
      obtain ⟨ns, hns, h⟩ := Option.bind_eq_some_iff.1 h
      obtain rfl := Option.some.inj h
      simp only [membersFit, Bool.and_eq_true] at hd
      exact Nat.max_lt.2
        ⟨depth_lt_of_fits hlimit hj hd.1, membersDepth_lt_of_fits hlimit hns hd.2⟩

end

end Document

namespace Json

/-- What a text is read as nests below the limit. -/
theorem depth_lt_of_parse? {s : String} {j : Json} (h : parse? s = some j) :
    j.depth < Document.nestingLimit := by
  obtain ⟨d, hd, h⟩ := Option.bind_eq_some_iff.1 h
  exact Document.depth_lt_of_fits (by decide) h (Document.fits_of_parse? hd)

theorem parse?_compact_iff {j : Json} (h : j.Plain) :
    (parse? j.compact).isSome = true ↔ j.depth < Document.nestingLimit := by
  constructor
  · intro hread
    obtain ⟨k, hk⟩ := Option.isSome_iff_exists.1 hread
    rw [parse?, Document.parse?_compact h.floatFree] at hk
    exact Document.depth_lt_of_toJsonWithin? (by decide) hk
  · intro hdepth
    rw [parse?_compact h hdepth]
    rfl

end Json

end Faultline
