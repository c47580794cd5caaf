import Faultline.Proofs.Json.Parsed
import Faultline.Mutation.Fields

/-!
# The leaves of an object, and values put at their places

`mem_leaves` characterises the leaves by their paths, and `leaves_lex` states their order: that of
the names on the way.  `OnlyAt` relates two values that differ at most in the value at the end of
a path, and `putAt` does not change more than that.
-/

namespace Faultline

namespace Entries

variable {α : Type}

/-- An entry that is there is the one that an insertion replaces. -/
theorem exists_insert_eq {k : String} {v : α} {l : List (String × α)} (hl : Sorted l)
    (h : find? k l = some v) :
    ∃ front back, l = front ++ (k, v) :: back ∧
      ∀ w, insert k w l = front ++ (k, w) :: back := by
  induction l with
  | nil => cases h
  | cons e r ih =>
      obtain ⟨k₀, v₀⟩ := e
      obtain ⟨hlt, hr⟩ := List.pairwise_cons.1 hl
      rw [find?] at h
      split at h
      · next hk =>
        subst hk
        obtain rfl := Option.some.inj h
        refine ⟨[], r, rfl, fun w => ?_⟩
        rw [insert, if_neg (String.lt_irrefl k), if_pos rfl]
        rfl
      · next hk =>
        obtain ⟨front, back, rfl, hinsert⟩ := ih hr h
        have hk₀ : k₀ < k := hlt (k, v) (by simp)
        have hnot : ¬k < k₀ := fun hlt => String.lt_irrefl k (String.lt_trans hlt hk₀)
        refine ⟨(k₀, v₀) :: front, back, rfl, fun w => ?_⟩
        rw [insert, if_neg hnot, if_neg hk, hinsert]
        rfl

end Entries

namespace Json

theorem ordered_obj {ms : List (String × Json)} :
    (obj ms).ordered = true ↔ Entries.Sorted ms ∧ orderedMembers ms = true := by
  simp [ordered]

/-- Two values that differ at most in the value at the end of a path. -/
inductive OnlyAt : List String → Json → Json → Prop
  | here (v w : Json) : OnlyAt [] v w
  | member {k : String} {ks : List String} {v w : Json} {front back : List (String × Json)}
      (h : OnlyAt ks v w) :
      OnlyAt (k :: ks) (.obj (front ++ (k, v) :: back)) (.obj (front ++ (k, w) :: back))

end Json

namespace Mutation

open Json

/-! ### Values put at a place -/

theorem exists_find?_of_path? {k : String} {ks : List String} {j v : Json}
    (h : j.path? (k :: ks) = some v) :
    ∃ ms child, j = .obj ms ∧ Entries.find? k ms = some child ∧ child.path? ks = some v := by
  obtain ⟨child, hchild, hv⟩ := Option.bind_eq_some_iff.1 h
  cases j with
  | obj ms => exact ⟨ms, child, rfl, hchild, hv⟩
  | null => cases hchild
  | bool b => cases hchild
  | int n => cases hchild
  | float x => cases hchild
  | str s => cases hchild
  | arr items => cases hchild

theorem putAt_cons {k : String} {ks : List String} {ms : List (String × Json)} {child : Json}
    (h : Entries.find? k ms = some child) (w : Json) :
    putAt w (k :: ks) (.obj ms) = .obj (Entries.insert k (putAt w ks child) ms) := by
  cases ks <;> simp [putAt, h]

/-- A value that is put at the end of a path is found there, and nothing else has changed. -/
theorem onlyAt_putAt {path : List String} {j old : Json} (hj : j.ordered = true)
    (h : j.path? path = some old) (w : Json) :
    OnlyAt path j (putAt w path j) ∧ (putAt w path j).path? path = some w := by
  induction path generalizing j with
  | nil =>
      rw [putAt]
      exact ⟨.here j w, rfl⟩
  | cons k ks ih =>
      obtain ⟨ms, child, rfl, hchild, hold⟩ := exists_find?_of_path? h
      obtain ⟨hsorted, hmembers⟩ := ordered_obj.1 hj
      obtain ⟨front, back, hms, hinsert⟩ := Entries.exists_insert_eq hsorted hchild
      have hmem := Entries.mem_of_find? hchild
      obtain ⟨honly, hnew⟩ := ih (orderedMembers_iff.1 hmembers _ hmem) hold
      rw [putAt_cons hchild]
      constructor
      · rw [hinsert, hms]
        exact .member honly
      · rw [path?, get?, Entries.find?_insert, if_pos rfl]
        exact hnew

/-- The value that is there already changes nothing. -/
theorem putAt_self {path : List String} {j v : Json} (hj : j.ordered = true)
    (h : j.path? path = some v) : putAt v path j = j := by
  induction path generalizing j with
  | nil =>
      rw [putAt]
      exact (Option.some.inj h).symm
  | cons k ks ih =>
      obtain ⟨ms, child, rfl, hchild, hv⟩ := exists_find?_of_path? h
      obtain ⟨hsorted, hmembers⟩ := ordered_obj.1 hj
      obtain ⟨front, back, hms, hinsert⟩ := Entries.exists_insert_eq hsorted hchild
      have hmem := Entries.mem_of_find? hchild
      rw [putAt_cons hchild, ih (orderedMembers_iff.1 hmembers _ hmem) hv, hinsert, ← hms]

/-! ### The leaves -/

/-- A leaf stands at its path below the base, and is mutated. -/
def IsLeaf (base : List String) (j : Json) (l : Leaf) : Prop :=
  ∃ q, l.path = base ++ q ∧ j.path? q = some l.value ∧ (leafSpace? l.value).isSome = true

theorem isLeaf_obj {base : List String} {ms : List (String × Json)} {l : Leaf} :
    IsLeaf base (.obj ms) l ↔
      ∃ k child, Entries.find? k ms = some child ∧ IsLeaf (base ++ [k]) child l := by
  constructor
  · rintro ⟨q, hpath, hvalue, hspace⟩
    cases q with
    | nil =>
        rw [← Option.some.inj hvalue] at hspace
        cases hspace
    | cons k q =>
        obtain ⟨child, hchild, hvalue⟩ := Option.bind_eq_some_iff.1 hvalue
        exact ⟨k, child, hchild, q, by simpa using hpath, hvalue, hspace⟩
  · rintro ⟨k, child, hchild, q, hpath, hvalue, hspace⟩
    exact ⟨k :: q, by simpa using hpath, Option.bind_eq_some_iff.2 ⟨child, hchild, hvalue⟩, hspace⟩

theorem mem_leavesAt_of_not_obj {base : List String} {j : Json} {l : Leaf}
    (h : ∀ ms, j ≠ .obj ms) : l ∈ leavesAt base j ↔ IsLeaf base j l := by
  have hleaves : leavesAt base j = if (leafSpace? j).isSome then [⟨base, j⟩] else [] := by
    cases j <;> first | rfl | exact absurd rfl (h _)
  rw [hleaves]
  constructor
  · intro hl
    split at hl
    · next hspace =>
      obtain rfl := List.mem_singleton.1 hl
      exact ⟨[], by simp, rfl, hspace⟩
    · cases hl
  · rintro ⟨q, hpath, hvalue, hspace⟩
    cases q with
    | nil =>
        obtain ⟨path, value⟩ := l
        obtain rfl : j = value := Option.some.inj hvalue
        obtain rfl : path = base := by simpa using hpath
        simp [hspace]
    | cons k q =>
        obtain ⟨ms, -, rfl, -⟩ := exists_find?_of_path? hvalue
        exact absurd rfl (h ms)

mutual

theorem mem_leavesAt : ∀ {base : List String} {j : Json} {l : Leaf}, j.ordered = true →
    (l ∈ leavesAt base j ↔ IsLeaf base j l)
  | base, .obj ms, l, h => by
      obtain ⟨hsorted, hmembers⟩ := ordered_obj.1 h
      rw [leavesAt, mem_leavesOf hsorted hmembers, isLeaf_obj]
  | base, .null, l, h => mem_leavesAt_of_not_obj fun _ => Json.noConfusion
  | base, .bool b, l, h => mem_leavesAt_of_not_obj fun _ => Json.noConfusion
  | base, .int n, l, h => mem_leavesAt_of_not_obj fun _ => Json.noConfusion
  | base, .float x, l, h => mem_leavesAt_of_not_obj fun _ => Json.noConfusion
  | base, .str s, l, h => mem_leavesAt_of_not_obj fun _ => Json.noConfusion
  | base, .arr items, l, h => mem_leavesAt_of_not_obj fun _ => Json.noConfusion

theorem mem_leavesOf : ∀ {base : List String} {ms : List (String × Json)} {l : Leaf},
    Entries.Sorted ms → orderedMembers ms = true →
    (l ∈ leavesOf base ms ↔ ∃ k child, Entries.find? k ms = some child ∧
      IsLeaf (base ++ [k]) child l)
  | base, [], l, _, _ => by simp [leavesOf, Entries.find?]
  | base, (k, v) :: ms, l, hsorted, hmembers => by
      obtain ⟨hlt, hms⟩ := List.pairwise_cons.1 hsorted
      simp only [orderedMembers, Bool.and_eq_true] at hmembers
      rw [leavesOf, List.mem_append, mem_leavesAt hmembers.1, mem_leavesOf hms hmembers.2]
      constructor
      · rintro (hl | ⟨k', child, hchild, hl⟩)
        · exact ⟨k, v, by simp [Entries.find?], hl⟩
        · have hne : k' ≠ k := by
            rintro rfl
            exact String.lt_irrefl _ (hlt (_, child) (Entries.mem_of_find? hchild))
          exact ⟨k', child, by simp [Entries.find?, hne, hchild], hl⟩
      · rintro ⟨k', child, hchild, hl⟩
        rw [Entries.find?] at hchild
        split at hchild
        · next hk =>
          obtain rfl := Option.some.inj hchild
          exact .inl (hk ▸ hl)
        · exact .inr ⟨k', child, hchild, hl⟩

end

/-- The leaves of an object, by their paths. -/
theorem mem_leaves {ms : List (String × Json)} {l : Leaf} (h : (Json.obj ms).ordered = true) :
    l ∈ leaves ms ↔
      (Json.obj ms).path? l.path = some l.value ∧ (leafSpace? l.value).isSome = true := by
  obtain ⟨hsorted, hmembers⟩ := ordered_obj.1 h
  rw [leaves, mem_leavesOf hsorted hmembers, ← isLeaf_obj]
  constructor
  · rintro ⟨q, hpath, hvalue, hspace⟩
    obtain rfl : l.path = q := hpath
    exact ⟨hvalue, hspace⟩
  · exact fun ⟨hvalue, hspace⟩ => ⟨l.path, rfl, hvalue, hspace⟩

/-! ### The order of the leaves -/

/-- Paths in the order of their names. -/
def PathLt : List String → List String → Prop :=
  List.Lex (· < ·)

theorem pathLt_append (base : List String) {q q' : List String} (h : PathLt q q') :
    PathLt (base ++ q) (base ++ q') := by
  induction base with
  | nil => exact h
  | cons k base ih => exact .cons ih

mutual

theorem leavesAt_lex : ∀ {base : List String} {j : Json}, j.ordered = true →
    (leavesAt base j).Pairwise fun l l' => PathLt l.path l'.path
  | base, .obj ms, h => by
      obtain ⟨hsorted, hmembers⟩ := ordered_obj.1 h
      exact leavesOf_lex hsorted hmembers
  | base, .null, h => List.Pairwise.nil
  | base, .bool b, h => List.pairwise_singleton _ _
  | base, .int n, h => by
      simp only [leavesAt]
      split
      · exact List.pairwise_singleton _ _
      · exact List.Pairwise.nil
  | base, .float x, h => List.Pairwise.nil
  | base, .str s, h => by
      simp only [leavesAt]
      split
      · exact List.pairwise_singleton _ _
      · exact List.Pairwise.nil
  | base, .arr items, h => List.Pairwise.nil

theorem leavesOf_lex : ∀ {base : List String} {ms : List (String × Json)}, Entries.Sorted ms →
    orderedMembers ms = true → (leavesOf base ms).Pairwise fun l l' => PathLt l.path l'.path
  | base, [], _, _ => List.Pairwise.nil
  | base, (k, v) :: ms, hsorted, hmembers => by
      obtain ⟨hlt, hms⟩ := List.pairwise_cons.1 hsorted
      simp only [orderedMembers, Bool.and_eq_true] at hmembers
      refine List.pairwise_append.2
        ⟨leavesAt_lex hmembers.1, leavesOf_lex hms hmembers.2, fun l hl l' hl' => ?_⟩
      obtain ⟨q, hpath, -⟩ := (mem_leavesAt hmembers.1).1 hl
      obtain ⟨k', child, hchild, q', hpath', -⟩ := (mem_leavesOf hms hmembers.2).1 hl'
      rw [hpath, hpath', List.append_assoc, List.append_assoc]
      exact pathLt_append base (.rel (hlt _ (Entries.mem_of_find? hchild)))

end

/-- The leaves come in the order of the names on the way. -/
theorem leaves_lex {ms : List (String × Json)} (h : (Json.obj ms).ordered = true) :
    (leaves ms).Pairwise fun l l' => PathLt l.path l'.path := by
  obtain ⟨hsorted, hmembers⟩ := ordered_obj.1 h
  exact leavesOf_lex hsorted hmembers

end Mutation

end Faultline
