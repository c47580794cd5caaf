import Faultline.Proofs.Mutation.Objects
import Mathlib

/-!
# The names of leaves

A leaf is named by the names on the way to it, joined by arrows, and an arrow inside a name is
marked by a dash behind it.  The mark does not always tell: a dash behind an arrow may as well
begin the next name.  `spreadPath` is the path that is left of a path when every arrow counts as a
step, and `fieldName_eq_iff` states that two paths have one name exactly when they spread to one
path.  Hence the leaves of an object can be told apart by their names exactly when their paths
spread differently (`named_apart_iff`), as they do where no name has an arrow in it.
-/

namespace Faultline.Mutation

/-! ### Texts with arrows -/

/-- The parts of a text between its arrows. -/
def arrowParts : List Char → List (List Char)
  | '-' :: '>' :: r => [] :: arrowParts r
  | c :: r => (arrowParts r).modifyHead (c :: ·)
  | [] => [[]]

/-- The names that a name with arrows is taken for.  The dash that marks an arrow begins the next
of them, unless the character behind it makes it the dash of one more arrow. -/
def spread : List Char → List (List Char)
  | '-' :: '>' :: '>' :: r => [] :: [] :: spread r
  | '-' :: '>' :: r => [] :: (spread r).modifyHead ('-' :: ·)
  | c :: r => (spread r).modifyHead (c :: ·)
  | [] => [[]]

theorem arrowParts_ne_nil (cs : List Char) : arrowParts cs ≠ [] := by
  fun_induction arrowParts cs with
  | case1 r ih => simp
  | case2 c r h ih => simpa using ih
  | case3 => simp

theorem arrowParts_cons {c : Char} {r : List Char} (h : c = '-' → r.head? ≠ some '>') :
    arrowParts (c :: r) = (arrowParts r).modifyHead (c :: ·) := by
  rw [arrowParts]
  rintro r' rfl rfl
  exact h rfl rfl

theorem intercalate_arrowParts (cs : List Char) :
    List.intercalate ['-', '>'] (arrowParts cs) = cs := by
  fun_induction arrowParts cs with
  | case1 r ih =>
      obtain ⟨p, ps, hps⟩ := List.exists_cons_of_ne_nil (arrowParts_ne_nil r)
      rw [hps] at ih ⊢
      simp [ih]
  | case2 c r h ih =>
      obtain ⟨p, ps, hps⟩ := List.exists_cons_of_ne_nil (arrowParts_ne_nil r)
      rw [hps] at ih ⊢
      rw [← ih]
      cases ps <;> simp
  | case3 => simp

/-- An arrow shares no character with another one. -/
theorem arrowParts_append (cs ds : List Char) :
    arrowParts (cs ++ '-' :: '>' :: ds) = arrowParts cs ++ arrowParts ds := by
  fun_induction arrowParts cs with
  | case1 r ih => simp [arrowParts, ih]
  | case2 c r h ih =>
      have hhead : c = '-' → (r ++ '-' :: '>' :: ds).head? ≠ some '>' := by
        rintro rfl hr
        cases r with
        | nil => simp at hr
        | cons d r =>
            obtain rfl : d = '>' := by simpa using hr
            exact h r rfl rfl
      obtain ⟨p, ps, hps⟩ := List.exists_cons_of_ne_nil (arrowParts_ne_nil r)
      rw [List.cons_append, arrowParts_cons hhead, ih, hps]
      rfl
  | case3 => simp [arrowParts]

theorem arrowParts_intercalate {ps : List (List Char)} (h : ps ≠ []) :
    arrowParts (List.intercalate ['-', '>'] ps) = ps.flatMap arrowParts := by
  induction ps with
  | nil => exact absurd rfl h
  | cons p ps ih =>
      cases ps with
      | nil => simp
      | cons q qs =>
          have hsplit := arrowParts_append p (List.intercalate ['-', '>'] (q :: qs))
          rw [ih (by simp)] at hsplit
          simpa using hsplit

theorem head?_escapeArrows (cs : List Char) : (escapeArrows cs).head? = cs.head? := by
  fun_cases escapeArrows cs <;> simp

/-- A name spreads to the parts of its escaped form. -/
theorem arrowParts_escapeArrows (cs : List Char) : arrowParts (escapeArrows cs) = spread cs := by
  fun_induction spread cs with
  | case1 r ih => simp [escapeArrows, arrowParts, ih]
  | case2 r h ih =>
      have hhead : r.head? ≠ some '>' := fun hr => by
        obtain ⟨r', hr'⟩ := List.head?_eq_some_iff.1 hr
        exact h r' hr'
      rw [escapeArrows, arrowParts, arrowParts_cons fun _ => by rwa [head?_escapeArrows], ih]
  | case3 c r _ h ih =>
      have hhead : c = '-' → (escapeArrows r).head? ≠ some '>' := fun hc hr => by
        rw [head?_escapeArrows] at hr
        obtain ⟨r', hr'⟩ := List.head?_eq_some_iff.1 hr
        exact h r' hc hr'
      rw [escapeArrows, arrowParts_cons hhead, ih]
      exact h
  | case4 => simp [escapeArrows, arrowParts]

/-! ### Paths and their names -/

/-- The path that a path is taken for. -/
def spreadPath (path : List String) : List String :=
  path.flatMap fun k => (spread k.toList).map String.ofList

/-- An arrow in a name. -/
def HasArrow (k : String) : Prop :=
  ['-', '>'] <:+: k.toList

theorem arrowParts_fieldName {path : List String} (h : path ≠ []) :
    (arrowParts (fieldName path).toList).map String.ofList = spreadPath path := by
  have hchars : (fieldName path).toList =
      List.intercalate ['-', '>'] (path.map fun k => escapeArrows k.toList) := by
    simp [fieldName, Function.comp_def]
  rw [hchars, arrowParts_intercalate (by simpa using h), spreadPath, List.flatMap_map,
    List.map_flatMap]
  simp only [arrowParts_escapeArrows]

/-- Paths have one name exactly when they are taken for the same path. -/
theorem fieldName_eq_iff {p q : List String} (hp : p ≠ []) (hq : q ≠ []) :
    fieldName p = fieldName q ↔ spreadPath p = spreadPath q := by
  constructor
  · intro h
    rw [← arrowParts_fieldName hp, ← arrowParts_fieldName hq, h]
  · intro h
    rw [← arrowParts_fieldName hp, ← arrowParts_fieldName hq] at h
    have hparts := List.map_injective_iff.2 (fun _ _ => String.ofList_inj.1) h
    rw [← String.toList_inj, ← intercalate_arrowParts (fieldName p).toList, hparts,
      intercalate_arrowParts]

theorem spread_eq_self {cs : List Char} (h : ¬['-', '>'] <:+: cs) : spread cs = [cs] := by
  fun_induction spread cs with
  | case1 r ih => exact absurd (List.prefix_append ['-', '>'] _).isInfix h
  | case2 r _ ih => exact absurd (List.prefix_append ['-', '>'] r).isInfix h
  | case3 c r _ _ ih => rw [ih fun hr => h (List.infix_cons hr), List.modifyHead_cons]
  | case4 => rfl

/-- Where no name has an arrow in it, a path is taken for itself. -/
theorem spreadPath_eq_self {path : List String} (h : ∀ k ∈ path, ¬HasArrow k) :
    spreadPath path = path := by
  have hself : spreadPath path = path.flatMap fun k => [k] :=
    List.flatMap_congr fun k hk => by rw [spread_eq_self (h k hk)]; simp
  rw [hself, List.flatMap_singleton']

/-! ### The leaves of an object -/

/-- Leaves with different paths have different names, and the name on the cursor of a leaf finds
that leaf. -/
structure NamedApart (members : List (String × Json)) : Prop where
  names : ∀ l ∈ leaves members, ∀ l' ∈ leaves members, l.path ≠ l'.path → l.field ≠ l'.field
  found : ∀ l ∈ leaves members,
    (leaves members).find? (fun l' => l'.field == (Cursor.ofLeaf l).field) = some l

section Leaves

variable {members : List (String × Json)} {l l' : Leaf}

theorem path_ne_nil (h : (Json.obj members).ordered = true) (hl : l ∈ leaves members) :
    l.path ≠ [] := by
  intro hpath
  obtain ⟨hvalue, hspace⟩ := (mem_leaves h).1 hl
  rw [hpath] at hvalue
  rw [← Option.some.inj hvalue] at hspace
  cases hspace

theorem eq_of_path_eq (h : (Json.obj members).ordered = true) (hl : l ∈ leaves members)
    (hl' : l' ∈ leaves members) (hpath : l.path = l'.path) : l = l' := by
  have hvalue := ((mem_leaves h).1 hl).1
  rw [hpath, ((mem_leaves h).1 hl').1] at hvalue
  cases l
  cases l'
  cases hpath
  cases hvalue
  rfl

theorem namedApart_of_names (h : (Json.obj members).ordered = true)
    (hnames : ∀ l ∈ leaves members, ∀ l' ∈ leaves members, l.path ≠ l'.path → l.field ≠ l'.field) :
    NamedApart members where
  names := hnames
  found l hl := by
    obtain ⟨hfind, hmem⟩ := Leaf.find?_bearer hl
    have hfield : (l.bearer (leaves members)).field = l.field := by
      simpa using List.find?_some hfind
    have hpath : (l.bearer (leaves members)).path = l.path :=
      Decidable.byContradiction fun hne => hnames _ hmem l hl hne hfield
    rw [eq_of_path_eq h hmem hl hpath] at hfind
    exact hfind

/-- The leaves of an object are told apart by their names exactly when their paths are taken for
different paths, and so they are where no name on the way to them has an arrow in it. -/
theorem named_apart_iff (h : (Json.obj members).ordered = true) :
    (NamedApart members ↔ ∀ l ∈ leaves members, ∀ l' ∈ leaves members,
      l.path ≠ l'.path → spreadPath l.path ≠ spreadPath l'.path) ∧
    ((∀ l ∈ leaves members, ∀ k ∈ l.path, ¬HasArrow k) → NamedApart members) := by
  have hiff : ∀ l ∈ leaves members, ∀ l' ∈ leaves members,
      (l.field = l'.field ↔ spreadPath l.path = spreadPath l'.path) := fun l hl l' hl' =>
    fieldName_eq_iff (path_ne_nil h hl) (path_ne_nil h hl')
  constructor
  · constructor
    · intro hapart l hl l' hl' hne
      exact mt (hiff l hl l' hl').2 (hapart.names l hl l' hl' hne)
    · intro hspread
      exact namedApart_of_names h fun l hl l' hl' hne =>
        mt (hiff l hl l' hl').1 (hspread l hl l' hl' hne)
  · intro hplain
    refine namedApart_of_names h fun l hl l' hl' hne heq => hne ?_
    have hsame := (hiff l hl l' hl').1 heq
    rwa [spreadPath_eq_self (hplain l hl), spreadPath_eq_self (hplain l' hl')] at hsame

end Leaves

/-- An object with arrows in its names, whose leaves can be told apart all the same. -/
def arrowObject : List (String × Json) :=
  [("a", .obj [("->", .bool true), ("b", .ofNat 5)]), ("a->b", .str "x")]

theorem named_apart_iff_arrowObject :
    (Json.obj arrowObject).ordered = true ∧ NamedApart arrowObject := by
  have h : (Json.obj arrowObject).ordered = true := by decide
  refine ⟨h, (named_apart_iff h).1.2 ?_⟩
  have hleaves : leaves arrowObject =
      [⟨["a", "->"], .bool true⟩, ⟨["a", "b"], .ofNat 5⟩, ⟨["a->b"], .str "x"⟩] := by cbv
  rw [hleaves]
  decide

/-- An object whose second leaf cannot be found by its name. -/
def shadowedObject : List (String × Json) :=
  [("a", .obj [("-b", .bool true)]), ("a->b", .bool true)]

/-- A dash that begins a name is taken for the mark of an arrow: two leaves have one name, the
cursor of the second finds the first, and the walk mutates the first twice and the second never. -/
theorem leaves_share_name :
    let first : Leaf := ⟨["a", "-b"], .bool true⟩
    let second : Leaf := ⟨["a->b"], .bool true⟩
    let payload := (Json.obj shadowedObject).compact
    let mutated : Json := .obj [("a", .obj [("-b", .bool false)]), ("a->b", .bool true)]
    leaves shadowedObject = [first, second] ∧ first.path ≠ second.path ∧
      first.field = second.field ∧
      (leaves shadowedObject).find? (fun l => l.field == (Cursor.ofLeaf second).field) =
        some first ∧
      ¬NamedApart shadowedObject ∧
      objectText.walker.run payload 3 (objectText.walker.start payload) =
        [mutated.compact, mutated.compact] := by
  intro first second payload mutated
  have hleaves : leaves shadowedObject = [first, second] := by cbv
  have hpath : first.path ≠ second.path := by decide
  have hfield : first.field = second.field := by cbv
  refine ⟨hleaves, hpath, hfield, by cbv, fun hapart => ?_, by cbv⟩
  exact hapart.names first (by simp [hleaves]) second (by simp [hleaves]) hpath hfield

end Faultline.Mutation
