import Faultline.Key
import Mathlib.Data.List.Infix
import Mathlib.Tactic.Common

/-!
# Reading a key's components back

A raw component stands in its brackets as it is, so the text itself may hold the bracket and the
dash that end a component.  The main statement, `projections_iff`, says for which callsites the
projections of a key give what the key was built from: exactly for those where no raw text
among the first four has a closing bracket before a dash.
-/

namespace Faultline.Key

/-- A closing bracket before a dash, which ends a bracketed component. -/
def closing : List Char := [']', '-']

/-- Nothing in the component is taken for its end: it is a digest, or a text that holds no closing
bracket before a dash. -/
def Closed (text : String) (digested : Bool) : Prop :=
  digested = true ∨ ¬closing <:+: text.toList

instance (text : String) (digested : Bool) : Decidable (Closed text digested) :=
  inferInstanceAs (Decidable (_ ∨ _))

/-! ### Where one component is cut -/

theorem cutAtDash_append {cs : List Char} (h : '-' ∉ cs) (r : List Char) :
    cutAtDash (cs ++ '-' :: r) = some (cs, r) := by
  induction cs with
  | nil => simp [cutAtDash]
  | cons c cs ih =>
    rw [List.mem_cons, not_or] at h
    rw [List.cons_append, cutAtDash, ih h.2]
    · rfl
    · exact fun hc => h.1 hc.symm

/-- A text is cut behind the first closing bracket that stands before a dash. -/
theorem cutAtBracket_append {cs : List Char} (h : ¬closing <:+: cs) (r : List Char) :
    cutAtBracket (cs ++ ']' :: '-' :: r) = some (cs ++ [']'], r) := by
  induction cs with
  | nil => simp [cutAtBracket]
  | cons c cs ih =>
    have tail : ¬closing <:+: cs := fun hi => h (List.infix_cons hi)
    rw [List.cons_append, cutAtBracket, ih tail]
    · rfl
    · -- the head is no such bracket either, whatever comes behind it
      rintro s rfl hs
      cases cs with
      | nil => simp at hs
      | cons d cs =>
        obtain ⟨rfl, -⟩ := List.cons_eq_cons.1 hs
        exact h ⟨[], cs, rfl⟩

theorem exists_first_closing {cs : List Char} (h : closing <:+: cs) :
    ∃ a b, cs = a ++ ']' :: '-' :: b ∧ ¬closing <:+: a := by
  induction cs with
  | nil => simp [closing] at h
  | cons c cs ih =>
    by_cases tail : closing <:+: cs
    · by_cases head : closing <+: c :: cs
      · obtain ⟨b, hb⟩ := head
        exact ⟨[], b, hb.symm, by simp [closing]⟩
      · obtain ⟨a, b, rfl, ha⟩ := ih tail
        refine ⟨c :: a, b, rfl, fun hi => ?_⟩
        rcases List.infix_cons_iff.1 hi with hp | hi
        · exact head (hp.trans (List.prefix_append (c :: a) _))
        · exact ha hi
    · obtain ⟨b, hb⟩ := (List.infix_cons_iff.1 h).resolve_right tail
      exact ⟨[], b, hb.symm, by simp [closing]⟩

theorem dash_notMem_digest (text : String) : '-' ∉ (Digest.ofText text).toList :=
  fun h => absurd (Digest.isHex_of_mem_ofText h) (by decide)

/-- A digest is no bracketed text. -/
theorem digest_append_ne_bracket (text : String) (r s : List Char) :
    (Digest.ofText text).toList ++ r ≠ '[' :: s := by
  cases hd : (Digest.ofText text).toList with
  | nil =>
    have size : (Digest.ofText text).toList.length = 64 :=
      String.length_toList.trans (Digest.length_ofText text)
    simp [hd] at size
  | cons c cs =>
    have hc : Digest.isHex c = true := Digest.isHex_of_mem_ofText (hd ▸ List.mem_cons_self)
    rintro ⟨rfl⟩
    exact absurd hc (by decide)

theorem not_closing_infix_bracket {cs : List Char} (h : ¬closing <:+: cs) :
    ¬closing <:+: '[' :: cs := by
  rw [List.infix_cons_iff]
  rintro (hp | hi)
  · exact absurd (List.cons_prefix_cons.1 hp).1 (by decide)
  · exact h hi

theorem toList_component_raw (text : String) :
    (component text false).toList = '[' :: (text.toList ++ [']']) := by
  simp [component]

theorem cutComponent_of_closed {text : String} {digested : Bool} (h : Closed text digested)
    (r : List Char) :
    cutComponent ((component text digested).toList ++ '-' :: r) =
      some ((component text digested).toList, r) := by
  cases digested with
  | true =>
    have digest : component text true = Digest.ofText text := rfl
    rw [digest, cutComponent, cutAtDash_append (dash_notMem_digest text)]
    exact fun s => digest_append_ne_bracket text _ s
  | false =>
    have inner : ¬closing <:+: text.toList := h.resolve_left (by decide)
    have cut := cutAtBracket_append (not_closing_infix_bracket inner) r
    rw [toList_component_raw]
    simpa [cutComponent] using cut

/-- A text that holds a closing bracket before a dash is cut there, before its own end. -/
theorem cutComponent_of_not_closed {text : String} {digested : Bool} (h : ¬Closed text digested)
    (r : List Char) :
    ∃ x s, cutComponent ((component text digested).toList ++ '-' :: r) = some (x, s) ∧
      x ≠ (component text digested).toList := by
  obtain ⟨hd, ht⟩ : digested = false ∧ closing <:+: text.toList := by
    simpa [Closed] using h
  subst hd
  obtain ⟨a, b, hab, ha⟩ := exists_first_closing ht
  refine ⟨'[' :: (a ++ [']']), b ++ ']' :: '-' :: r, ?_, ?_⟩
  · have cut := cutAtBracket_append (not_closing_infix_bracket ha) (b ++ ']' :: '-' :: r)
    rw [toList_component_raw, hab]
    simpa [cutComponent] using cut
  · rw [toList_component_raw, hab]
    simp

/-! ### Where all of them are cut -/

/-- Components one after the other, each with a dash behind it, and what stands behind them. -/
def joined : List (String × Bool) → List Char → List Char
  | [], r => r
  | (text, digested) :: ps, r => (component text digested).toList ++ '-' :: joined ps r

theorem lastComponent_component (text : String) (digested : Bool) :
    lastComponent (component text digested).toList = some (component text digested).toList := by
  cases digested with
  | true =>
    have digest : component text true = Digest.ofText text := rfl
    rw [digest, lastComponent]
    intro s
    simpa using digest_append_ne_bracket text [] s
  | false =>
    rw [toList_component_raw, lastComponent]
    simp [List.getLast?_cons]

theorem cutComponents_of_cut {cs x s : List Char} (h : cutComponent cs = some (x, s)) (n : Nat) :
    cutComponents (n + 1) cs = (cutComponents n s).map (x :: ·) := by
  cases hs : cutComponents n s <;> simp [cutComponents, h, hs]

/-- All components are read as they were written exactly if nothing in any of them but the last is
taken for its end. -/
theorem cutComponents_joined_iff (ps : List (String × Bool)) (text : String) (digested : Bool) :
    cutComponents ps.length (joined ps (component text digested).toList) =
        some ((ps ++ [(text, digested)]).map fun p => (component p.1 p.2).toList) ↔
      ∀ p ∈ ps, Closed p.1 p.2 := by
  induction ps with
  | nil => simp [joined, cutComponents, lastComponent_component]
  | cons p ps ih =>
    obtain ⟨t, d⟩ := p
    rw [List.length_cons, joined, List.forall_mem_cons]
    by_cases h : Closed t d
    · rw [cutComponents_of_cut (cutComponent_of_closed h _), ← ih]
      cases cutComponents ps.length (joined ps (component text digested).toList) <;> simp [h]
    · obtain ⟨x, s, cut, hx⟩ := cutComponent_of_not_closed h (joined ps _)
      rw [cutComponents_of_cut cut]
      cases cutComponents ps.length s <;> simp [h, hx]

/-- The first component that is read is the one that was written exactly if nothing in it is taken
for its end. -/
theorem head_cutComponents_joined_iff (p : String × Bool) (ps : List (String × Bool))
    (r : List Char) (n : Nat) :
    (cutComponents (n + 1) (joined (p :: ps) r)).bind (·[0]?) = some (component p.1 p.2).toList ↔
      Closed p.1 p.2 ∧ (cutComponents (n + 1) (joined (p :: ps) r)).isSome := by
  obtain ⟨t, d⟩ := p
  rw [joined]
  by_cases h : Closed t d
  · rw [cutComponents_of_cut (cutComponent_of_closed h _)]
    cases cutComponents n (joined ps r) <;> simp [h]
  · obtain ⟨x, s, cut, hx⟩ := cutComponent_of_not_closed h (joined ps r)
    rw [cutComponents_of_cut cut]
    cases cutComponents n s <;> simp [h, hx]

/-- Closed components are read one by one, and the others behind them. -/
theorem cutComponents_joined_append {ps : List (String × Bool)} (h : ∀ p ∈ ps, Closed p.1 p.2)
    (qs : List (String × Bool)) (r : List Char) (n : Nat) :
    cutComponents (n + ps.length) (joined (ps ++ qs) r) =
      (cutComponents n (joined qs r)).map
        ((ps.map fun p => (component p.1 p.2).toList) ++ ·) := by
  induction ps with
  | nil => simp
  | cons p ps ih =>
    obtain ⟨t, d⟩ := p
    have head : Closed t d := h (t, d) List.mem_cons_self
    rw [List.length_cons, ← Nat.add_assoc, List.cons_append, joined,
      cutComponents_of_cut (cutComponent_of_closed head _),
      ih fun p hp => h p (List.mem_cons_of_mem _ hp), Option.map_map]
    rfl

/-! ### The projections -/

/-- The components that the projections read through, all but the last. -/
def leading (c : Callsite) (d : Digesting) : List (String × Bool) :=
  [(c.metadata, d.metadata), (c.service, d.source), (signature c, d.signature),
    (location c, d.synchronous)]

/-- Nothing in a callsite is taken for the end of a component. -/
def Readable (c : Callsite) (d : Digesting) : Prop :=
  ∀ p ∈ leading c d, Closed p.1 p.2

instance (c : Callsite) (d : Digesting) : Decidable (Readable c d) :=
  inferInstanceAs (Decidable (∀ p ∈ leading c d, Closed p.1 p.2))

theorem componentsOf_eq_map (c : Callsite) (d : Digesting) :
    componentsOf c d =
      (leading c d ++ [(given c, d.asynchronous)]).map fun p => component p.1 p.2 :=
  rfl

theorem toList_rendered_ofCallsite (c : Callsite) (d : Digesting) :
    (ofCallsite c d).rendered.toList =
      'V' :: '1' :: '-' :: joined (leading c d) (component (given c) d.asynchronous).toList := by
  simp [ofCallsite, componentsOf, version, leading, joined, String.intercalate_cons_cons]

section

variable {c : Callsite} {d : Digesting} {k : Key}

/-- Only the text of a key counts, so that a key read back has the projections of the first. -/
theorem components?_eq (hk : k.rendered = (ofCallsite c d).rendered) :
    k.components? =
      (cutComponents 4 (joined (leading c d) (component (given c) d.asynchronous).toList)).map
        (·.map String.ofList) := by
  rw [components?, hk, toList_rendered_ofCallsite]
  rfl

theorem components?_eq_some_iff (hk : k.rendered = (ofCallsite c d).rendered) :
    k.components? = some (componentsOf c d) ↔ Readable c d := by
  have texts : componentsOf c d =
      ((leading c d ++ [(given c, d.asynchronous)]).map
        fun p => (component p.1 p.2).toList).map String.ofList := by
    simp [componentsOf_eq_map]
  have inj : Function.Injective (Option.map (List.map String.ofList)) :=
    Option.map_injective (List.map_injective_iff.2 fun _ _ h => String.ofList_injective h)
  rw [components?_eq hk, texts, ← Option.map_some, inj.eq_iff]
  exact cutComponents_joined_iff (leading c d) (given c) d.asynchronous

/-- A component at one place is the text that is cut there. -/
theorem getElem?_components?_iff (hk : k.rendered = (ofCallsite c d).rendered) (i : Nat)
    (text : String) :
    k.components?.bind (·[i]?) = some text ↔
      (cutComponents 4 (joined (leading c d) (component (given c) d.asynchronous).toList)).bind
        (·[i]?) = some text.toList := by
  rw [components?_eq hk]
  cases cutComponents 4 (joined (leading c d) (component (given c) d.asynchronous).toList) with
  | none => simp
  | some cs => simp [← String.toList_inj]

theorem onlyMetadata?_iff (hk : k.rendered = (ofCallsite c d).rendered) :
    k.onlyMetadata? = some (component c.metadata d.metadata) ↔
      Closed c.metadata d.metadata ∧ k.components?.isSome := by
  rw [onlyMetadata?, getElem?_components?_iff hk, components?_eq hk, Option.isSome_map]
  exact head_cutComponents_joined_iff (c.metadata, d.metadata) _ _ 3

/-- The signature stands behind the metadata and the service, so it is found once these two are
read as they were written. -/
theorem onlySignature?_iff (hk : k.rendered = (ofCallsite c d).rendered)
    (hm : Closed c.metadata d.metadata) (hs : Closed c.service d.source) :
    k.onlySignature? = some (component (signature c) d.signature) ↔
      Closed (signature c) d.signature ∧ k.components?.isSome := by
  have before : ∀ p ∈ [(c.metadata, d.metadata), (c.service, d.source)], Closed p.1 p.2 := by
    simp [hm, hs]
  have cut := cutComponents_joined_append before
    [(signature c, d.signature), (location c, d.synchronous)]
    (component (given c) d.asynchronous).toList 2
  have first := head_cutComponents_joined_iff (signature c, d.signature)
    [(location c, d.synchronous)] (component (given c) d.asynchronous).toList 1
  rw [onlySignature?, getElem?_components?_iff hk, components?_eq hk, Option.isSome_map]
  rw [show cutComponents 4 (joined (leading c d) _) = _ from cut, Option.isSome_map, ← first]
  cases cutComponents 2 (joined [(signature c, d.signature), (location c, d.synchronous)] _) with
  | none => simp
  | some cs => simp

/-- What the projections of a callsite's key give, of the key itself and of one made from its text.
The five components are read as they were written exactly if the callsite is readable, and then
each projection is what it should be: so it is, in particular, where the first four components are
digested.  Metadata that hold a closing bracket before a dash are never given back, and neither is
such a signature. -/
theorem projections_iff (c : Callsite) (d : Digesting) (k : Key)
    (hk : k = ofCallsite c d ∨ k = ofRendered (ofCallsite c d).rendered) :
    (k.components? = some (componentsOf c d) ↔ Readable c d) ∧
    (Readable c d →
      k.onlyMetadata? = some (component c.metadata d.metadata) ∧
      k.onlySignature? = some (component (signature c) d.signature) ∧
      k.onlyMetadataAndSignature? = some (component c.metadata d.metadata ++ "-" ++
        component (signature c) d.signature)) ∧
    (k.onlyMetadata? = some (component c.metadata d.metadata) ↔
      Closed c.metadata d.metadata ∧ k.components?.isSome) ∧
    (Closed c.metadata d.metadata → Closed c.service d.source →
      (k.onlySignature? = some (component (signature c) d.signature) ↔
        Closed (signature c) d.signature ∧ k.components?.isSome)) := by
  have text : k.rendered = (ofCallsite c d).rendered := by
    rcases hk with rfl | rfl <;> rfl
  refine ⟨components?_eq_some_iff text, fun h => ?_, onlyMetadata?_iff text,
    onlySignature?_iff text⟩
  have read := (components?_eq_some_iff text).2 h
  refine ⟨by simp [onlyMetadata?, read, componentsOf], by simp [onlySignature?, read, componentsOf],
    by simp [onlyMetadataAndSignature?, onlyMetadata?, onlySignature?, read, componentsOf]⟩

end

/-- A call with the given metadata. -/
def siteWith (metadata : String) : Callsite :=
  ⟨"api", "M", "m", .empty, "f", 1, metadata⟩

/-- Metadata without a bracket are read back from the text of a key. -/
theorem projections_iff_raw :
    (ofRendered (ofCallsite (siteWith "a-b") .raw).rendered).onlyMetadata? = some "[a-b]" ∧
    (ofRendered (ofCallsite (siteWith "a-b") .raw).rendered).onlySignature? = some "[M,m,[]]" := by
  have readable : Readable (siteWith "a-b") .raw := by decide
  have all := projections_iff (siteWith "a-b") .raw _ (.inr rfl)
  exact ⟨(all.2.1 readable).1, (all.2.1 readable).2.1⟩

/-- Metadata with a bracket before a dash are cut at the bracket, and what is given for the
signature is the service. -/
theorem metadata_cut_at_bracket :
    (ofCallsite (siteWith "a]-b") .raw).onlyMetadata? = some "[a]" ∧
    (ofCallsite (siteWith "a]-b") .raw).onlySignature? = some "[api]" ∧
    component (siteWith "a]-b").metadata false = "[a]-b]" ∧
    component (signature (siteWith "a]-b")) false = "[M,m,[]]" := by
  decide

end Faultline.Key
