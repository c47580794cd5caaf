import Faultline.Proofs.Json.RoundTrip
import Faultline.Proofs.Plan

/-!
# Sameness is an equivalence

Values are the same when they differ in nothing but the signs of their zeros.  `Json.same_iff`
says so by a canonical form, which makes the comparison an equivalence, and equality where there
are no floats.  Faults are the same when their objects are, and plans agree as finite maps, so
that these comparisons are equivalences too.
-/

namespace Faultline

namespace Binary64

/-- The number with the sign of a zero taken away. -/
def canonical (x : Binary64) : Binary64 :=
  if x.isZero then ⟨0⟩ else x

theorem isZero_canonical (x : Binary64) : x.canonical.isZero = x.isZero := by
  unfold canonical
  split
  · next h => rw [h]; rfl
  · rfl

theorem same_iff {x y : Binary64} : x.same y = true ↔ x.canonical = y.canonical := by
  simp only [same, Bool.or_eq_true, Bool.and_eq_true, beq_iff_eq]
  constructor
  · rintro (rfl | ⟨hx, hy⟩)
    · rfl
    · rw [canonical, canonical, if_pos hx, if_pos hy]
  · intro h
    have hzero : x.isZero = y.isZero := by
      rw [← isZero_canonical x, h, isZero_canonical]
    cases hy : y.isZero with
    | true => exact .inr ⟨hzero.trans hy, rfl⟩
    | false => exact .inl (by simpa [canonical, hzero, hy] using h)

end Binary64

namespace Json

mutual

/-- The value with the signs of zeros taken away. -/
def canonical : Json → Json
  | float x => float x.canonical
  | arr items => arr (canonicalItems items)
  | obj members => obj (canonicalMembers members)
  | null => null
  | bool b => bool b
  | int n => int n
  | str s => str s

def canonicalItems : List Json → List Json
  | [] => []
  | j :: js => canonical j :: canonicalItems js

def canonicalMembers : List (String × Json) → List (String × Json)
  | [] => []
  | (k, j) :: ms => (k, canonical j) :: canonicalMembers ms

end

mutual

/-- Values are the same when their canonical forms are equal. -/
theorem same_iff : ∀ {a b : Json}, a.same b = true ↔ a.canonical = b.canonical
  | null, b => by cases b <;> simp [same, canonical]
  | bool _, b => by cases b <;> simp [same, canonical]
  | int _, b => by cases b <;> simp [same, canonical]
  | float _, b => by cases b <;> simp [same, canonical, Binary64.same_iff]
  | str _, b => by cases b <;> simp [same, canonical]
  | arr items, b => by cases b <;> simp [same, canonical, @sameItems_iff items]
  | obj members, b => by cases b <;> simp [same, canonical, @sameMembers_iff members]

theorem sameItems_iff : ∀ {js ks : List Json},
    sameItems js ks = true ↔ canonicalItems js = canonicalItems ks
  | [], ks => by cases ks <;> simp [sameItems, canonicalItems]
  | j :: js, ks => by
      cases ks <;>
        simp [sameItems, canonicalItems, @same_iff j, @sameItems_iff js]

theorem sameMembers_iff : ∀ {ms ns : List (String × Json)},
    sameMembers ms ns = true ↔ canonicalMembers ms = canonicalMembers ns
  | [], ns => by cases ns <;> simp [sameMembers, canonicalMembers]
  | (k, j) :: ms, ns => by
      cases ns <;>
        simp [sameMembers, canonicalMembers, @same_iff j, @sameMembers_iff ms,
          and_assoc]

end

mutual

theorem canonical_of_floatFree : ∀ {j : Json}, j.floatFree = true → j.canonical = j
  | null, _ => rfl
  | bool _, _ => rfl
  | int _, _ => rfl
  | float _, h => by simp [floatFree] at h
  | str _, _ => rfl
  | arr items, h => by rw [canonical, @canonicalItems_of_floatFree items h]
  | obj members, h => by rw [canonical, @canonicalMembers_of_floatFree members h]

theorem canonicalItems_of_floatFree : ∀ {js : List Json},
    floatFreeItems js = true → canonicalItems js = js
  | [], _ => rfl
  | j :: js, h => by
      simp only [floatFreeItems, Bool.and_eq_true] at h
      rw [canonicalItems, canonical_of_floatFree h.1, canonicalItems_of_floatFree h.2]

theorem canonicalMembers_of_floatFree : ∀ {ms : List (String × Json)},
    floatFreeMembers ms = true → canonicalMembers ms = ms
  | [], _ => rfl
  | (k, j) :: ms, h => by
      simp only [floatFreeMembers, Bool.and_eq_true] at h
      rw [canonicalMembers, canonical_of_floatFree h.1, canonicalMembers_of_floatFree h.2]

end

/-- Values without floats are the same only when they are equal. -/
theorem eq_of_same {a b : Json} (h : a.same b = true) (ha : a.floatFree = true)
    (hb : b.floatFree = true) : a = b := by
  rw [← canonical_of_floatFree ha, ← canonical_of_floatFree hb]
  exact same_iff.1 h

end Json

namespace Fault

theorem toJson_exception (e : ForcedException) :
    e.toJson = .obj [("metadata", .obj e.metadata.toList), ("name", .str e.name)] :=
  (Json.object_pair (by decide) _ _).2

theorem toJson_byzantine (b : ByzantineFault) :
    b.toJson = .obj [("type", .str b.type), ("value", b.value)] :=
  (Json.object_pair (by decide) _ _).1

theorem toJson_transformer (t : TransformerFault) :
    t.toJson = .obj [("accumulator", t.accumulator), ("type", .str t.transformer.name)] :=
  (Json.object_pair (by decide) _ _).2

theorem name_inj {k l : TransformerKind} : k.name = l.name ↔ k = l := by
  constructor
  · intro h
    have hname := congrArg TransformerKind.ofName? h
    simpa [TransformerKind.ofName?_name] using hname
  · rintro rfl
    rfl

/-- Faults are the same when their objects are. -/
theorem same_iff_toObject {f g : Fault} : f.same g = true ↔ f.toObject.same g.toObject = true := by
  have hjson : ∀ a b : Json, (a == b) = a.same b := fun _ _ => rfl
  cases f <;> cases g <;>
    simp [same, toObject, kind, body, Json.same, Json.sameMembers, toJson_exception,
      toJson_byzantine, toJson_transformer, ForcedException.same, hjson, name_inj, and_comm]

/-- Faults are the same when the canonical forms of their objects are equal. -/
theorem same_iff {f g : Fault} :
    f.same g = true ↔ f.toObject.canonical = g.toObject.canonical :=
  same_iff_toObject.trans Json.same_iff

theorem sameOption_iff {f g : Option Fault} : sameOption f g = true ↔
    f.map (·.toObject.canonical) = g.map (·.toObject.canonical) := by
  cases f <;> cases g <;> simp [sameOption, same_iff]

theorem same_symm {f g : Fault} (h : f.same g = true) : g.same f = true :=
  same_iff.2 (same_iff.1 h).symm

theorem same_trans {f g k : Fault} (h : f.same g = true) (h' : g.same k = true) :
    f.same k = true :=
  same_iff.2 ((same_iff.1 h).trans (same_iff.1 h'))

end Fault

namespace Plan

variable {p q r : Plan}

theorem agrees_iff : p.Agrees q ↔
    ∀ t, (p.get? t).map (·.toObject.canonical) = (q.get? t).map (·.toObject.canonical) := by
  exact forall_congr' fun t => Fault.sameOption_iff

theorem Agrees.refl (p : Plan) : p.Agrees p :=
  agrees_iff.2 fun _ => rfl

theorem Agrees.symm (h : p.Agrees q) : q.Agrees p :=
  agrees_iff.2 fun t => (agrees_iff.1 h t).symm

theorem Agrees.trans (h : p.Agrees q) (h' : q.Agrees r) : p.Agrees r :=
  agrees_iff.2 fun t => (agrees_iff.1 h t).trans (agrees_iff.1 h' t)

end Plan

end Faultline
