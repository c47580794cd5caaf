import Faultline.Proofs.Index
import Faultline.Proofs.Json.Balance
import Faultline.Proofs.Key
import Faultline.Proofs.Plan
import Faultline.Proofs.Text.Numeral

/-!
# Telling callsites apart

Which callsites share a key.  The texts of a key stand side by side without any escape, so that a
raw text may hold what looks like its end and the beginning of the next component; where no text
does, the components are told apart (`written_inj`).  Within them the arguments and the line are
found behind the last comma that they leave room for, but a module and a method only come as a
whole.  `rendered_eq_iff` states that callsites with the same key are the same up to where the
module ends, and that a comma in a module or a method always makes another callsite of this kind.
-/

namespace Faultline

/-! ### Cutting at a separator -/

section

variable {α : Type} {sep : α} {us vs s t : List α}

/-- Texts are the same on both sides of a separator if none of them goes on across it. -/
theorem append_sep_inj (hs : ∀ as, vs = us ++ sep :: as → s ≠ as ++ sep :: t)
    (ht : ∀ as, us = vs ++ sep :: as → t ≠ as ++ sep :: s)
    (h : us ++ sep :: s = vs ++ sep :: t) : us = vs ∧ s = t := by
  rcases List.append_eq_append_iff.1 h with ⟨as, hvs, has⟩ | ⟨as, hus, has⟩
  · cases as with
    | nil => simp_all
    | cons a as =>
      obtain ⟨rfl, hsplit⟩ := List.cons.inj has
      exact absurd hsplit (hs as hvs)
  · cases as with
    | nil => simp_all
    | cons a as =>
      obtain ⟨rfl, hsplit⟩ := List.cons.inj has
      exact absurd hsplit (ht as hus)

end

namespace Arguments

/-- Arguments as they are made: none, or those of a value. -/
def Built (a : Arguments) : Prop :=
  a = empty ∨ ∃ label value, a = ofValue label value

theorem Built.isCompact {a : Arguments} (h : a.Built) : Json.IsCompact a.text.toList := by
  rcases h with rfl | ⟨label, value, rfl⟩
  · exact .inl rfl
  · exact .inr ⟨value, String.toList_ofList⟩

end Arguments

namespace Key

/-! ### Telling components apart -/

/-- A component may begin with this character. -/
def begins (digested : Bool) (x : Char) : Bool :=
  if digested then Digest.isHex x else x == '['

/-- No closing bracket and dash in the text stand before what the next component may begin
with. -/
def Sealed (text : String) (next : Bool) : Prop :=
  ∀ x ∈ text.toList, begins next x = true → ¬[']', '-', x] <:+: text.toList

instance (text : String) (next : Bool) : Decidable (Sealed text next) :=
  List.decidableBAll (fun x => begins next x = true → ¬[']', '-', x] <:+: text.toList) text.toList

/-- Every raw text is sealed, unless all components behind it are digests, which have their
length. -/
def Separable : List (String × Bool) → Prop
  | p :: q :: ps =>
    (p.2 = true ∨ (∀ r ∈ q :: ps, r.2 = true) ∨ Sealed p.1 q.2) ∧ Separable (q :: ps)
  | _ => True

instance decidableSeparable : ∀ ps, Decidable (Separable ps)
  | [] => .isTrue trivial
  | [_] => .isTrue trivial
  | _ :: q :: ps =>
    have := decidableSeparable (q :: ps)
    inferInstanceAs (Decidable (_ ∧ _))

/-- Components with dashes between them. -/
def written : List (String × Bool) → List Char
  | [] => []
  | [p] => (component p.1 p.2).toList
  | p :: q :: ps => (component p.1 p.2).toList ++ '-' :: written (q :: ps)

/-- The texts of two callsites at the same place of their keys. -/
structure Row where
  left : String
  right : String
  digested : Bool

namespace Row

def first (r : Row) : String × Bool := (r.left, r.digested)

def second (r : Row) : String × Bool := (r.right, r.digested)

/-- The digest tells the texts apart if they are digested. -/
def Told (r : Row) : Prop :=
  r.digested = true → Digest.ofText r.left = Digest.ofText r.right → r.left = r.right

instance (r : Row) : Decidable r.Told :=
  inferInstanceAs (Decidable (_ → _ → _))

end Row

theorem length_digest (text : String) : (component text true).toList.length = 64 :=
  String.length_toList.trans (Digest.length_ofText text)

theorem exists_begins_component (text : String) (digested : Bool) :
    ∃ x r, (component text digested).toList = x :: r ∧ begins digested x = true := by
  cases digested with
  | true =>
    have hlength := length_digest text
    cases hd : (component text true).toList with
    | nil => simp [hd] at hlength
    | cons x r => exact ⟨x, r, rfl, Digest.isHex_of_mem_ofText (hd ▸ List.mem_cons_self)⟩
  | false => exact ⟨'[', _, toList_component_raw text, rfl⟩

theorem exists_begins_written (p : String × Bool) (ps : List (String × Bool)) :
    ∃ x r, written (p :: ps) = x :: r ∧ begins p.2 x = true := by
  obtain ⟨x, r, hx, hbegins⟩ := exists_begins_component p.1 p.2
  cases ps with
  | nil => exact ⟨x, r, hx, hbegins⟩
  | cons q ps => exact ⟨x, r ++ '-' :: written (q :: ps), by rw [written, hx]; rfl, hbegins⟩

/-- The length of digests that stand one after the other. -/
theorem length_written {ps : List (String × Bool)} (h : ∀ p ∈ ps, p.2 = true) :
    (written ps).length = 65 * ps.length - 1 := by
  induction ps using written.induct with
  | case1 => rfl
  | case2 p =>
    have hp : p.2 = true := h p List.mem_cons_self
    rw [written, hp]
    exact length_digest p.1
  | case3 p q ps ih =>
    obtain ⟨hp, htail⟩ := List.forall_mem_cons.1 h
    rw [written, hp, List.length_append, List.length_cons, length_digest, ih htail]
    simp only [List.length_cons]
    omega

/-- A sealed text does not go on across an end that stands before the beginning of a component. -/
theorem Sealed.eq_nil {text : String} {next : Bool} (h : Sealed text next) {cs as r s : List Char}
    {x : Char} (hx : begins next x = true) (htext : text.toList = cs ++ as)
    (heq : ']' :: '-' :: x :: r = as ++ ']' :: '-' :: s) : as = [] := by
  have hbracket : begins next ']' = false := by cases next <;> decide
  match as with
  | [] => rfl
  | [_] => simp at heq
  | [_, _] =>
    obtain ⟨-, -, rfl, -⟩ : _ ∧ _ ∧ _ ∧ _ := by simpa using heq
    rw [hx] at hbracket
    cases hbracket
  | _ :: _ :: _ :: as =>
    obtain ⟨rfl, rfl, rfl, -⟩ : _ ∧ _ ∧ _ ∧ _ := by simpa using heq
    have hfound : [']', '-', x] <:+: text.toList := ⟨cs, as, by rw [htext]; simp⟩
    exact absurd hfound (h x (hfound.subset (by simp)) hx)

/-- Two sealed texts before the beginnings of components end in the same place. -/
theorem Sealed.inj {text text' : String} {next : Bool} (h : Sealed text next)
    (h' : Sealed text' next) {x x' : Char} {r r' : List Char} (hx : begins next x = true)
    (hx' : begins next x' = true)
    (heq : text.toList ++ ']' :: '-' :: x :: r = text'.toList ++ ']' :: '-' :: x' :: r') :
    text = text' := by
  rw [← String.toList_inj]
  rcases List.append_eq_append_iff.1 heq with ⟨as, htext, has⟩ | ⟨as, htext, has⟩
  · rw [h'.eq_nil hx htext has, List.append_nil] at htext
    exact htext.symm
  · rw [h.eq_nil hx' htext has, List.append_nil] at htext
    exact htext

theorem Row.Told.eq {r : Row} (h : r.Told)
    (heq : (component r.left r.digested).toList = (component r.right r.digested).toList) :
    r.left = r.right := by
  obtain ⟨text, text', digested⟩ := r
  cases digested with
  | true => exact h rfl (String.toList_inj.1 heq)
  | false =>
    rw [toList_component_raw, toList_component_raw] at heq
    exact String.toList_inj.1 (List.append_cancel_right (List.cons.inj heq).2)

/-- The first of several components is told from those behind it. -/
theorem Row.Told.eq_of_append {r s : Row} {rows : List Row} (h : r.Told)
    (hleft : Separable ((r :: s :: rows).map Row.first))
    (hright : Separable ((r :: s :: rows).map Row.second))
    (heq : written ((r :: s :: rows).map Row.first) = written ((r :: s :: rows).map Row.second)) :
    r.left = r.right := by
  obtain ⟨text, text', digested⟩ := r
  replace hleft : digested = true ∨ (∀ p ∈ (s :: rows).map Row.first, p.2 = true) ∨
    Sealed text s.digested := hleft.1
  replace hright : digested = true ∨ (∀ p ∈ (s :: rows).map Row.second, p.2 = true) ∨
    Sealed text' s.digested := hright.1
  replace heq : (component text digested).toList ++ '-' :: written ((s :: rows).map Row.first) =
    (component text' digested).toList ++ '-' :: written ((s :: rows).map Row.second) := heq
  rw [List.forall_mem_map] at hleft hright
  cases digested with
  | true =>
    refine h.eq (List.append_inj_left heq ?_)
    rw [length_digest, length_digest]
  | false =>
    by_cases hdigests : ∀ r ∈ s :: rows, r.digested = true
    · -- what stands behind the texts has the same length
      refine h.eq (List.append_inj_left' heq ?_)
      rw [List.length_cons, List.length_cons, length_written (List.forall_mem_map.2 hdigests),
        length_written (List.forall_mem_map.2 hdigests), List.length_map, List.length_map]
    · have hsealed := (hleft.resolve_left Bool.false_ne_true).resolve_left hdigests
      have hsealed' := (hright.resolve_left Bool.false_ne_true).resolve_left hdigests
      obtain ⟨x, t, hx, hbegins⟩ := exists_begins_written s.first (rows.map Row.first)
      obtain ⟨x', t', hx', hbegins'⟩ := exists_begins_written s.second (rows.map Row.second)
      rw [toList_component_raw, toList_component_raw, List.map_cons, List.map_cons, hx, hx'] at heq
      have hcut : text.toList ++ ']' :: '-' :: x :: t = text'.toList ++ ']' :: '-' :: x' :: t' := by
        simpa using heq
      exact hsealed.inj hsealed' hbegins hbegins' hcut

/-- Components are told apart where they stand side by side. -/
theorem written_inj {rows : List Row} (hleft : Separable (rows.map Row.first))
    (hright : Separable (rows.map Row.second)) (htold : ∀ r ∈ rows, r.Told)
    (heq : written (rows.map Row.first) = written (rows.map Row.second)) :
    ∀ r ∈ rows, r.left = r.right := by
  induction rows with
  | nil => exact List.forall_mem_nil _
  | cons r rows ih =>
    obtain ⟨hr, hrows⟩ := List.forall_mem_cons.1 htold
    cases rows with
    | nil => exact List.forall_mem_singleton.2 (hr.eq heq)
    | cons s rows =>
      have hfirst : r.left = r.right := hr.eq_of_append hleft hright heq
      have hsame : r.first = r.second := Prod.ext hfirst rfl
      refine List.forall_mem_cons.2 ⟨hfirst, ih hleft.2 hright.2 hrows ?_⟩
      rw [List.map_cons, List.map_cons, hsame] at heq
      exact (List.cons.inj (List.append_cancel_left heq)).2

/-! ### Telling callsites apart -/

/-- The texts of a callsite's key. -/
def parts (c : Callsite) (d : Digesting) : List (String × Bool) :=
  leading c d ++ [(given c, d.asynchronous)]

theorem toList_rendered_eq (c : Callsite) (d : Digesting) :
    (ofCallsite c d).rendered.toList = 'V' :: '1' :: '-' :: written (parts c d) := by
  rw [toList_rendered_ofCallsite]
  simp [joined, written, parts, leading]

/-- The texts of the keys of two callsites. -/
def rows (c c' : Callsite) (d : Digesting) : List Row :=
  [⟨c.metadata, c'.metadata, d.metadata⟩, ⟨c.service, c'.service, d.source⟩,
    ⟨signature c, signature c', d.signature⟩, ⟨location c, location c', d.synchronous⟩,
    ⟨given c, given c', d.asynchronous⟩]

/-- Two callsites that differ in nothing but where the module ends and the method begins. -/
structure Alike (c c' : Callsite) : Prop where
  metadata : c.metadata = c'.metadata
  service : c.service = c'.service
  called : c.module ++ "," ++ c.method = c'.module ++ "," ++ c'.method
  file : c.file = c'.file
  line : c.line = c'.line
  arguments : c.arguments = c'.arguments

variable {c c' : Callsite} {d : Digesting}

theorem signature_eq_iff :
    signature c = signature c' ↔ c.module ++ "," ++ c.method = c'.module ++ "," ++ c'.method := by
  simp only [signature, ← String.toList_inj, String.toList_append]
  exact List.append_left_inj _

theorem repr_ne_append_comma (n : Nat) (as s : List Char) :
    (Nat.repr n).toList ≠ as ++ ',' :: s := by
  intro h
  have hmem : ',' ∈ Nat.toDigits 10 n := by
    rw [← Nat.toList_repr, h]
    simp
  exact absurd (Document.isDigit_of_mem_toDigits hmem) (by decide)

theorem location_eq_iff : location c = location c' ↔ c.file = c'.file ∧ c.line = c'.line := by
  constructor
  · intro h
    have htexts : c.file.toList ++ ',' :: (Nat.repr c.line.toNat).toList =
        c'.file.toList ++ ',' :: (Nat.repr c'.line.toNat).toList := by
      simpa [location] using congrArg String.toList h
    obtain ⟨hfile, hline⟩ :=
      append_sep_inj (fun as _ => repr_ne_append_comma _ as _)
        (fun as _ => repr_ne_append_comma _ as _) htexts
    rw [Nat.toList_repr, Nat.toList_repr] at hline
    have hread := Text.digits?_toDigits c.line.toNat
    rw [hline, Text.digits?_toDigits] at hread
    exact ⟨String.toList_inj.1 hfile, (UInt32.toNat_inj.1 (Option.some.inj hread)).symm⟩
  · rintro ⟨hfile, hline⟩
    rw [location, location, hfile, hline]

theorem given_eq_iff (hc : c.arguments.Built) (hc' : c'.arguments.Built) :
    given c = given c' ↔ c.arguments = c'.arguments := by
  constructor
  · intro h
    have htexts : c.arguments.label.toList ++ ',' :: c.arguments.text.toList =
        c'.arguments.label.toList ++ ',' :: c'.arguments.text.toList := by
      simpa [given] using congrArg String.toList h
    obtain ⟨hlabel, htext⟩ :=
      append_sep_inj (fun as _ => hc.isCompact.ne_append_comma hc'.isCompact as)
        (fun as _ => hc'.isCompact.ne_append_comma hc.isCompact as) htexts
    cases harguments : c.arguments
    cases harguments' : c'.arguments
    simp_all [String.toList_inj]
  · intro h
    rw [given, given, h]

/-- The texts of two callsites are the same where the callsites are. -/
theorem forall_rows_iff (hc : c.arguments.Built) (hc' : c'.arguments.Built) :
    (∀ r ∈ rows c c' d, r.left = r.right) ↔ Alike c c' := by
  simp only [rows, List.forall_mem_cons, signature_eq_iff, location_eq_iff, given_eq_iff hc hc']
  constructor
  · rintro ⟨hmetadata, hservice, hcalled, ⟨hfile, hline⟩, harguments, -⟩
    exact ⟨hmetadata, hservice, hcalled, hfile, hline, harguments⟩
  · intro h
    exact ⟨h.metadata, h.service, h.called, ⟨h.file, h.line⟩, h.arguments, List.forall_mem_nil _⟩

theorem rendered_iff (hc : c.arguments.Built) (hc' : c'.arguments.Built)
    (hsep : Separable (parts c d)) (hsep' : Separable (parts c' d))
    (htold : ∀ r ∈ rows c c' d, r.Told) :
    (ofCallsite c d).rendered = (ofCallsite c' d).rendered ↔ Alike c c' := by
  rw [← forall_rows_iff hc hc' (d := d), ← String.toList_inj, toList_rendered_eq,
    toList_rendered_eq]
  constructor
  · intro h
    have hwritten :
        written ((rows c c' d).map Row.first) = written ((rows c c' d).map Row.second) :=
      (List.cons.inj (List.cons.inj (List.cons.inj h).2).2).2
    exact written_inj hsep hsep' htold hwritten
  · intro h
    have hparts : (rows c c' d).map Row.first = (rows c c' d).map Row.second :=
      List.map_congr_left fun r hr => Prod.ext (h r hr) rfl
    exact congrArg (fun ps => 'V' :: '1' :: '-' :: written ps) hparts

theorem Alike.eq (h : Alike c c') (hc : ',' ∉ c.module.toList) (hc' : ',' ∉ c'.module.toList) :
    c = c' := by
  have hcalled : c.module.toList ++ ',' :: c.method.toList =
      c'.module.toList ++ ',' :: c'.method.toList := by
    simpa using congrArg String.toList h.called
  obtain ⟨hmodule, hmethod⟩ := append_sep_inj (fun as h => absurd (by simp [h]) hc')
    (fun as h => absurd (by simp [h]) hc) hcalled
  obtain ⟨service, module, method, arguments, file, line, metadata⟩ := c
  obtain rfl : module = c'.module := String.toList_inj.1 hmodule
  obtain rfl : method = c'.method := String.toList_inj.1 hmethod
  obtain ⟨rfl, rfl, -, rfl, rfl, rfl⟩ := h
  rfl

theorem Alike.rendered_eq (h : Alike c c') (d : Digesting) :
    (ofCallsite c d).rendered = (ofCallsite c' d).rendered := by
  have hsignature : signature c = signature c' := signature_eq_iff.2 h.called
  simp only [ofCallsite, componentsOf, hsignature, location, given, h.metadata, h.service, h.file,
    h.line, h.arguments]

/-- Any comma between module and method may be taken for the one that was put there. -/
theorem alike_of_split {us vs : List Char}
    (h : c.module.toList ++ ',' :: c.method.toList = us ++ ',' :: vs) :
    Alike c { c with module := String.ofList us, method := String.ofList vs } := by
  refine ⟨rfl, rfl, ?_, rfl, rfl, rfl⟩
  rw [← String.toList_inj]
  simpa using h

/-- A comma in the module or in the method makes another callsite with the same key. -/
theorem exists_alike (h : ',' ∈ c.module.toList ∨ ',' ∈ c.method.toList) :
    ∃ c', c' ≠ c ∧ Alike c c' := by
  obtain ⟨us, vs, hsplit, hus⟩ : ∃ us vs,
      c.module.toList ++ ',' :: c.method.toList = us ++ ',' :: vs ∧ us ≠ c.module.toList := by
    rcases h with h | h
    · obtain ⟨us, vs, hmodule⟩ := List.append_of_mem h
      exact ⟨us, vs ++ ',' :: c.method.toList, by simp [hmodule], by simp [hmodule]⟩
    · obtain ⟨us, vs, hmethod⟩ := List.append_of_mem h
      exact ⟨c.module.toList ++ ',' :: us, vs, by simp [hmethod], by simp⟩
  refine ⟨_, fun heq => hus ?_, alike_of_split hsplit⟩
  have hmodule := congrArg (·.module.toList) heq
  simpa using hmodule

/-! ### Texts that are not told apart -/

theorem exists_of_not_sealed {text : String} (h : ¬Sealed text false) :
    ∃ us vs, text.toList = us ++ ']' :: '-' :: '[' :: vs := by
  simp only [Sealed, begins, not_forall, not_not] at h
  obtain ⟨x, -, hx, us, vs, htext⟩ := h
  obtain rfl : x = '[' := by simpa using hx
  exact ⟨us, vs, by rw [← htext]; simp⟩

/-- Two raw texts side by side may end and begin at any bracket, dash and bracket in them. -/
theorem written_eq_of_split {text text' next next' : String} (ps : List (String × Bool))
    (h : text.toList ++ ']' :: '-' :: '[' :: next.toList =
      text'.toList ++ ']' :: '-' :: '[' :: next'.toList) :
    written ((text, false) :: (next, false) :: ps) =
      written ((text', false) :: (next', false) :: ps) := by
  cases ps with
  | nil =>
    simp only [written, toList_component_raw]
    simpa using congrArg (· ++ [']']) h
  | cons p ps =>
    simp only [written, toList_component_raw]
    simpa using congrArg (· ++ ']' :: '-' :: written (p :: ps)) h

/-- A raw text that is not sealed before another raw one makes another callsite with the same
key. -/
theorem exists_rendered_eq_of_not_sealed
    (h : (d.metadata = false ∧ d.source = false ∧ ¬Sealed c.metadata false) ∨
      d.source = false ∧ d.signature = false ∧ ¬Sealed c.service false) :
    ∃ other, other ≠ c ∧ (ofCallsite other d).rendered = (ofCallsite c d).rendered := by
  rcases h with ⟨hd, hd', h⟩ | ⟨hd, hd', h⟩ <;> obtain ⟨us, vs, htext⟩ := exists_of_not_sealed h
  · refine ⟨{ c with
      metadata := String.ofList us
      service := String.ofList (vs ++ ']' :: '-' :: '[' :: c.service.toList) }, fun heq => ?_, ?_⟩
    · have hus : us = c.metadata.toList := by simpa using congrArg (·.metadata.toList) heq
      simp [htext] at hus
    · simp only [← String.toList_inj, toList_rendered_eq, parts, leading, hd, hd']
      refine congrArg ('V' :: '1' :: '-' :: ·) (written_eq_of_split _ ?_)
      simp [htext]
  · refine ⟨{ c with
      service := String.ofList us
      module := String.ofList (vs ++ ']' :: '-' :: '[' :: c.module.toList) }, fun heq => ?_, ?_⟩
    · have hus : us = c.service.toList := by simpa using congrArg (·.service.toList) heq
      simp [htext] at hus
    · simp only [← String.toList_inj, toList_rendered_eq, parts, leading, hd, hd']
      refine congrArg ('V' :: '1' :: '-' :: (component c.metadata d.metadata).toList ++ '-' :: ·)
        (written_eq_of_split _ ?_)
      simp [htext, signature]

/-- What is counted and planned for calls under one key does not show under the other. -/
structure Unmixed (k l : Key) : Prop where
  counters : ∀ i j : Index, i.push k = .ok j → j.counter l.rendered = i.counter l.rendered
  faults : ∀ (p : Plan) (t u : Trail) (m n : UInt64) (f : Fault),
    (p.put (t ++ [(k.rendered, m)]) f).get? (u ++ [(l.rendered, n)]) =
      p.get? (u ++ [(l.rendered, n)])

theorem unmixed_iff (k l : Key) : Unmixed k l ↔ k.rendered ≠ l.rendered := by
  constructor
  · intro h hsame
    have hfault := h.faults .empty [] [] 1 1 (.ofTransformer .text)
    rw [hsame] at hfault
    simp at hfault
  · intro hne
    refine ⟨fun i j hpush => ?_, fun p t u m n f => ?_⟩
    · obtain ⟨n, -, rfl⟩ := Index.exists_of_push hpush
      rw [Index.counter_pushCounted, if_neg hne.symm]
    · have htrails : u ++ [(l.rendered, n)] ≠ t ++ [(k.rendered, m)] := by
        intro heq
        have hlast := (List.append_inj' heq rfl).2
        simp only [List.cons.injEq, Prod.mk.injEq] at hlast
        exact hne hlast.1.1.symm
      rw [Ledger.get?_put, if_neg htrails]

/-- Callsites with the same key are the same up to where the module ends, so that nothing of one
shows with any other.  Without a comma in a module it ends in one place only; any comma in a module
or a method makes another callsite with the same key, whatever is digested. -/
theorem rendered_eq_iff (hc : c.arguments.Built) (hc' : c'.arguments.Built)
    (hsep : Separable (parts c d)) (hsep' : Separable (parts c' d))
    (htold : ∀ r ∈ rows c c' d, r.Told) :
    ((ofCallsite c d).rendered = (ofCallsite c' d).rendered ↔ Alike c c') ∧
    (Unmixed (ofCallsite c d) (ofCallsite c' d) ↔ ¬Alike c c') ∧
    (',' ∉ c.module.toList → ',' ∉ c'.module.toList → (Alike c c' ↔ c = c')) ∧
    (',' ∈ c.module.toList ∨ ',' ∈ c.method.toList →
      ∃ other, other ≠ c ∧ ∀ e, (ofCallsite other e).rendered = (ofCallsite c e).rendered) := by
  have hiff := rendered_iff hc hc' hsep hsep' htold
  refine ⟨hiff, (unmixed_iff _ _).trans (not_congr hiff), fun hcomma hcomma' => ?_, fun h => ?_⟩
  · constructor
    · intro h
      exact h.eq hcomma hcomma'
    · rintro rfl
      exact ⟨rfl, rfl, rfl, rfl, rfl, rfl⟩
  · obtain ⟨other, hne, halike⟩ := exists_alike h
    exact ⟨other, hne, fun e => (halike.rendered_eq e).symm⟩

/-- A call of a method with the given metadata. -/
def siteOf (module method metadata : String) : Callsite :=
  ⟨"api", module, method, .ofValue "R" (.arr [.str ","]), "f", 1, metadata⟩

/-- Metadata are digested, and nothing else. -/
def metadataDigested : Digesting := ⟨true, false, false, false, false⟩

theorem rendered_eq_iff_siteOf :
    (ofCallsite (siteOf "M" "m" "x") metadataDigested).rendered ≠
        (ofCallsite (siteOf "M" "m" "y") metadataDigested).rendered ∧
      (ofCallsite (siteOf "M,a" "b" "x") metadataDigested).rendered =
        (ofCallsite (siteOf "M" "a,b" "x") metadataDigested).rendered := by
  have hbuilt : ∀ module method metadata, (siteOf module method metadata).arguments.Built :=
    fun _ _ _ => .inr ⟨_, _, rfl⟩
  have hxy := @rendered_eq_iff (siteOf "M" "m" "x") (siteOf "M" "m" "y") metadataDigested
    (hbuilt _ _ _) (hbuilt _ _ _) (by decide) (by decide) (by decide +kernel)
  have hab := @rendered_eq_iff (siteOf "M,a" "b" "x") (siteOf "M" "a,b" "x") metadataDigested
    (hbuilt _ _ _) (hbuilt _ _ _) (by decide) (by decide) (by decide +kernel)
  refine ⟨fun h => ?_, hab.1.2 ⟨rfl, rfl, by decide, rfl, rfl, rfl⟩⟩
  exact absurd (hxy.1.1 h).metadata (by decide)

/-- Two callsites with one key, both of them digested as by default. -/
theorem same_key_of_comma :
    siteOf "a,b" "c" "" ≠ siteOf "a" "b,c" "" ∧
      (ofCallsite (siteOf "a,b" "c" "") {}).rendered =
        (ofCallsite (siteOf "a" "b,c" "") {}).rendered := by
  refine ⟨by decide, Alike.rendered_eq ?_ {}⟩
  exact ⟨rfl, rfl, by decide, rfl, rfl, rfl⟩

end Key

end Faultline
