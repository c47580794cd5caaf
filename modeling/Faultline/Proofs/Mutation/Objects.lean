import Mathlib.Data.List.Nodup
import Faultline.Proofs.Mutation.Codec
import Faultline.Proofs.Mutation.Leaf
import Faultline.Proofs.Mutation.Leaves

/-!
# Walks through objects

A walk through an object takes one leaf after the other, each to the end of its own space.  It
finds the leaf by the name on its cursor: where two leaves share a name, the first is mutated in
place of the second (`Leaf.bearer`).
-/

namespace Faultline.Mutation

/-- The results of the space that a leaf selects. -/
def Leaf.results (l : Leaf) : List String :=
  ((leafSpace? l.value).map fun m => m.results (leafInput l.value)).getD []

/-- The first leaf with the name of a leaf. -/
def Leaf.bearer (ls : List Leaf) (l : Leaf) : Leaf :=
  (ls.find? fun l' => l'.field == l.field).getD l

/-- Mutations of a leaf fit the places of a walk. -/
def Leaf.Fits (l : Leaf) : Prop :=
  ∃ m, leafSpace? l.value = some m ∧ m.count (leafInput l.value) ≤ 0x10000000000000000

theorem Leaf.find?_bearer {ls : List Leaf} {l : Leaf} (h : l ∈ ls) :
    ls.find? (fun l' => l'.field == l.field) = some (l.bearer ls) ∧ l.bearer ls ∈ ls := by
  have hsome : (ls.find? fun l' => l'.field == l.field).isSome = true :=
    List.find?_isSome.2 ⟨l, h, beq_self_eq_true _⟩
  obtain ⟨l', hl'⟩ := Option.isSome_iff_exists.1 hsome
  have hbearer : l.bearer ls = l' := by rw [bearer, hl', Option.getD_some]
  rw [hbearer]
  exact ⟨hl', List.mem_of_find?_eq_some hl'⟩

/-- Where no two leaves share a name, every leaf bears its own. -/
theorem Leaf.bearer_eq_self {ls : List Leaf} {l : Leaf} (hls : (ls.map Leaf.field).Nodup)
    (h : l ∈ ls) : l.bearer ls = l := by
  obtain ⟨hfind, hmem⟩ := find?_bearer h
  have hfield : (l.bearer ls).field = l.field := by simpa using List.find?_some hfind
  exact List.inj_on_of_nodup_map hls hmem h hfield

namespace Cursor

theorem floatFree_codec (a : Accumulator String UInt64) : (codec.write a).floatFree = true := by
  rw [codec, Codec.write_accumulator]
  rfl

theorem floatFree_listCodec {cs : List Cursor} (h : ∀ c ∈ cs, c.accumulator.floatFree = true) :
    (listCodec.write cs).floatFree = true := by
  refine Json.floatFreeItems_iff.2 fun j hj => ?_
  obtain ⟨c, hc, rfl⟩ := List.mem_map.1 hj
  simp [toJson_eq, Json.floatFree, Json.floatFreeMembers, h c hc]

end Cursor

namespace ObjectEncoding

variable {P : Type} {e : ObjectEncoding P} {p : P} {members : List (String × Json)}

/-- What a leaf adds to the walk through its object. -/
def contribution (e : ObjectEncoding P) (members : List (String × Json)) (l : Leaf) : List P :=
  l.results.map fun r => e.encode (putAt (restore l.value r) l.path (.obj members))

theorem leavesOf_eq (h : e.decode? p = some members) : e.leavesOf p = leaves members := by
  simp [leavesOf, h]

/-! ### Steps -/

section Step

variable {c : Cursor} {l : Leaf} {m : Space String String} {a a' : Accumulator String UInt64}

/-- The last step of the leaf that a cursor names. -/
theorem stepLeaf_last (hdecode : e.decode? p = some members)
    (hl : (leaves members).find? (fun l => l.field == c.field) = some l)
    (hm : leafSpace? l.value = some m) (ha : Cursor.codec.read? c.accumulator = some a)
    {r : String} {next : Except Violation (Accumulator String UInt64)}
    (hstage : m.stage (leafInput l.value) a = ⟨r, false, next⟩) :
    e.stepLeaf p c =
      some ⟨e.encode (putAt (restore l.value r) l.path (.obj members)), none⟩ := by
  simp [stepLeaf, hdecode, hl, hm, ha, hstage]

/-- A step of the leaf that a cursor names, with steps of the leaf to follow. -/
theorem stepLeaf_more (hdecode : e.decode? p = some members)
    (hl : (leaves members).find? (fun l => l.field == c.field) = some l)
    (hm : leafSpace? l.value = some m) (ha : Cursor.codec.read? c.accumulator = some a)
    {r : String} (hstage : m.stage (leafInput l.value) a = ⟨r, true, .ok a'⟩) :
    e.stepLeaf p c = some ⟨e.encode (putAt (restore l.value r) l.path (.obj members)),
      some ⟨c.field, Cursor.codec.write a'⟩⟩ := by
  simp [stepLeaf, hdecode, hl, hm, ha, hstage]

theorem floatFree_of_stepLeaf {taken : LeafStep P} {c' : Cursor}
    (h : e.stepLeaf p c = some taken) (hnext : taken.next = some c') :
    c'.accumulator.floatFree = true := by
  simp only [stepLeaf, Option.bind_eq_bind, Option.bind_eq_some_iff, Option.pure_def] at h
  obtain ⟨_, -, l, -, m, -, a, -, h⟩ := h
  split at h <;> cases h
  · obtain rfl := Option.some.inj hnext
    exact Cursor.floatFree_codec _
  · cases hnext

/-- A cursor that names no leaf, or a leaf that cannot take its turn. -/
theorem step_idle (h : e.stepLeaf p c = none) (q : P) (done : List Cursor) :
    e.step p ⟨q, done ++ [c]⟩ = ⟨p, decide (done.length + 1 < e.fieldCount q),
      .ok ⟨q, done ++ [c] ++ e.following q (done.length + 1)⟩⟩ := by
  simp [step, h]

theorem step_last {r : P} (h : e.stepLeaf p c = some ⟨r, none⟩) (q : P) (done : List Cursor) :
    e.step p ⟨q, done ++ [c]⟩ = ⟨r, decide (done.length + 1 < e.fieldCount q),
      .ok ⟨q, done ++ [c] ++ e.following q (done.length + 1)⟩⟩ := by
  simp [step, h]

theorem step_more {r : P} {c' : Cursor} (h : e.stepLeaf p c = some ⟨r, some c'⟩) (q : P)
    (done : List Cursor) :
    e.step p ⟨q, done ++ [c]⟩ = ⟨r, true, .ok ⟨q, done ++ [c']⟩⟩ := by
  simp [step, h]

end Step

/-! ### Walks -/

/-- A step after which no leaf goes on: the last one, or the rest of the walk follows it. -/
theorem walks_cons {a : Accumulator P (List Cursor)} {r : P} {q : P} {n : Nat}
    {begun : List Cursor}
    (hstep : e.step p a = ⟨r, decide (n < e.fieldCount q), .ok ⟨q, begun⟩⟩) {rest : List P}
    (hrest : if n < e.fieldCount q then e.walker.Walks p ⟨q, begun⟩ rest else rest = []) :
    e.walker.Walks p a (r :: rest) := by
  by_cases hlt : n < e.fieldCount q
  · rw [decide_eq_true hlt] at hstep
    rw [if_pos hlt] at hrest
    exact .more hstep hrest
  · rw [decide_eq_false hlt] at hstep
    rw [if_neg hlt] at hrest
    rw [hrest]
    exact .last hstep

/-- The walk through the leaf that a cursor names, from wherever it stands, and then through what
follows it. -/
theorem walks_leaf (hdecode : e.decode? p = some members) {l : Leaf} {m : Space String String}
    (hm : leafSpace? l.value = some m) {a : Accumulator String UInt64} {rs : List String}
    (hwalk : m.walker.Walks (leafInput l.value) a rs) {c : Cursor}
    (hl : (leaves members).find? (fun l => l.field == c.field) = some l)
    (ha : Cursor.codec.read? c.accumulator = some a) {q : P} (done : List Cursor) {rest : List P}
    (hrest : ∀ c : Cursor, if done.length + 1 < e.fieldCount q
      then e.walker.Walks p ⟨q, done ++ [c] ++ e.following q (done.length + 1)⟩ rest
      else rest = []) :
    e.walker.Walks p ⟨q, done ++ [c]⟩
      (rs.map (fun r => e.encode (putAt (restore l.value r) l.path (.obj members))) ++ rest) := by
  induction hwalk generalizing c with
  | last hstage =>
      have hleaf := stepLeaf_last hdecode hl hm ha hstage
      exact walks_cons (step_last hleaf q done) (hrest c)
  | @more a a' r rs hstage _ ih =>
      have hleaf := stepLeaf_more hdecode hl hm ha hstage
      exact .more (step_more hleaf q done)
        (ih (c := ⟨c.field, Cursor.codec.write a'⟩) hl (Cursor.lossless_codec a'))

/-- The walk from one leaf on goes through the leaves behind it. -/
theorem walks_from (hdecode : e.decode? p = some members)
    (hfits : ∀ l ∈ leaves members, l.Fits) (front : List Leaf) {l : Leaf} {back : List Leaf}
    (h : leaves members = front ++ l :: back) (done : List Cursor)
    (hdone : done.length = front.length) :
    e.walker.Walks p ⟨p, done ++ [.ofLeaf l]⟩
      ((l :: back).flatMap fun l => e.contribution members (l.bearer (leaves members))) := by
  obtain ⟨hfind, hmem⟩ := Leaf.find?_bearer (show l ∈ leaves members by simp [h])
  obtain ⟨m, hm, hcount⟩ := hfits _ hmem
  have hresults : (l.bearer (leaves members)).results =
      m.results (leafInput (l.bearer (leaves members)).value) := by simp [Leaf.results, hm]
  have hwalk := Space.walks hcount (leafInput l.value)
  rw [← hresults] at hwalk
  rw [List.flatMap_cons]
  refine walks_leaf hdecode hm hwalk hfind (Cursor.lossless_codec _) done fun c => ?_
  have hlength : e.fieldCount p = front.length + (back.length + 1) := by
    simp [fieldCount, leavesOf_eq hdecode, h]
  cases back with
  | nil =>
      rw [if_neg (by simp at hlength; omega)]
      rfl
  | cons l' back =>
      rw [if_pos (by simp at hlength; omega)]
      have hnext : e.following p (done.length + 1) = [.ofLeaf l'] := by
        simp [following, leavesOf_eq hdecode, h, hdone]
      rw [hnext]
      exact walks_from hdecode hfits (front ++ [l]) (by simp [h]) (done ++ [c]) (by simp [hdone])
termination_by back.length

/-- The walk from a cursor, whatever it names and wherever it stands, goes on with what follows
cursors of that number. -/
theorem exists_walks_cursor
    (hfits : ∀ members, e.decode? p = some members → ∀ l ∈ leaves members, l.Fits) {q : P} {n : Nat}
    {rest : List P} (hrest : ∀ (done : List Cursor) (c : Cursor), done.length = n →
      if n + 1 < e.fieldCount q
      then e.walker.Walks p ⟨q, done ++ [c] ++ e.following q (n + 1)⟩ rest else rest = [])
    (c : Cursor) : ∃ rs, ∀ done : List Cursor, done.length = n →
      e.walker.Walks p ⟨q, done ++ [c]⟩ (rs ++ rest) := by
  cases hleaf : e.stepLeaf p c with
  | none =>
      refine ⟨[p], ?_⟩
      rintro done rfl
      exact walks_cons (step_idle hleaf q done) (hrest done c rfl)
  | some taken =>
      simp only [stepLeaf, Option.bind_eq_bind, Option.bind_eq_some_iff, Option.pure_def] at hleaf
      obtain ⟨members, hdecode, l, hl, m, hm, a, ha, -⟩ := hleaf
      obtain ⟨m', hm', hcount⟩ := hfits members hdecode l (List.mem_of_find?_eq_some hl)
      obtain rfl := Option.some.inj (hm.symm.trans hm')
      obtain ⟨rs, hwalk⟩ := Space.exists_walks hcount a
      refine ⟨rs.map fun r => e.encode (putAt (restore l.value r) l.path (.obj members)), ?_⟩
      rintro done rfl
      exact walks_leaf hdecode hm hwalk hl ha done fun c => hrest done c rfl

/-- What follows cursors of a number does not depend on them.  The leaves of the reference that
have had no cursor get fewer. -/
theorem exists_rest
    (hfits : ∀ members, e.decode? p = some members → ∀ l ∈ leaves members, l.Fits) (q : P)
    (n : Nat) : ∃ rest, ∀ (done : List Cursor) (c : Cursor), done.length = n →
      if n + 1 < e.fieldCount q
      then e.walker.Walks p ⟨q, done ++ [c] ++ e.following q (n + 1)⟩ rest else rest = [] := by
  by_cases hlt : n + 1 < e.fieldCount q
  · simp only [if_pos hlt]
    obtain ⟨rest, hrest⟩ := exists_rest hfits q (n + 1)
    have hleaf : (e.leavesOf q)[n + 1]? = some (e.leavesOf q)[n + 1] := List.getElem?_eq_getElem hlt
    have hfollowing : e.following q (n + 1) = [.ofLeaf (e.leavesOf q)[n + 1]] := by
      rw [following, hleaf]
      rfl
    obtain ⟨rs, hwalk⟩ := exists_walks_cursor hfits hrest (.ofLeaf (e.leavesOf q)[n + 1])
    rw [hfollowing]
    exact ⟨rs ++ rest, fun done c hdone => hwalk (done ++ [c]) (by simp [hdone])⟩
  · simp only [if_neg hlt]
    exact ⟨[], fun _ _ _ => rfl⟩
termination_by e.fieldCount q - n

/-- The walk ends from any cursors over any reference. -/
theorem exists_walks_append
    (hfits : ∀ members, e.decode? p = some members → ∀ l ∈ leaves members, l.Fits) (q : P)
    (done : List Cursor) (c : Cursor) : ∃ rs, e.walker.Walks p ⟨q, done ++ [c]⟩ rs := by
  obtain ⟨rest, hrest⟩ := exists_rest hfits q done.length
  obtain ⟨rs, hwalk⟩ := exists_walks_cursor hfits hrest c
  exact ⟨rs ++ rest, hwalk done rfl⟩

/-- Every payload is walked to an end from any accumulator, be it an object or not.  Neither the
cursors nor the reference need have anything to do with the payload. -/
theorem exists_walks
    (hfits : ∀ members, e.decode? p = some members → ∀ l ∈ leaves members, l.Fits)
    (a : Accumulator P (List Cursor)) : ∃ rs, e.walker.Walks p a rs := by
  obtain ⟨q, begun⟩ := a
  rcases List.eq_nil_or_concat begun with rfl | ⟨done, c, rfl⟩
  · have hstep : e.step p ⟨q, []⟩ = ⟨p, decide (0 < e.fieldCount q), .ok ⟨q, e.following q 0⟩⟩ := by
      simp [step]
    cases hleaf : (e.leavesOf q)[0]? with
    | none =>
        have hcount : ¬ 0 < e.fieldCount q := by
          have := List.getElem?_eq_none_iff.1 hleaf
          simp only [fieldCount]
          omega
        exact ⟨[p], walks_cons hstep (by rw [if_neg hcount])⟩
    | some l =>
        have hcount : 0 < e.fieldCount q := (List.getElem?_eq_some_iff.1 hleaf).1
        have hfollowing : e.following q 0 = [] ++ [.ofLeaf l] := by
          rw [following, hleaf]
          rfl
        obtain ⟨rs, hwalk⟩ := exists_walks_append hfits q [] (.ofLeaf l)
        rw [← hfollowing] at hwalk
        exact ⟨_, walks_cons hstep (by rwa [if_pos hcount])⟩
  · rw [List.concat_eq_append]
    exact exists_walks_append hfits q done c

/-- A payload without leaves is yielded once, as it is. -/
theorem walks_of_leavesOf_eq_nil (h : e.leavesOf p = []) :
    e.walker.Walks p (e.walker.start p) [p] := by
  have hstart : e.walker.start p = ⟨p, []⟩ := by simp [walker, following, h]
  have hstep : e.walker.step p ⟨p, []⟩ = ⟨p, false, .ok ⟨p, []⟩⟩ := by
    simp [walker, step, following, fieldCount, h]
  rw [hstart]
  exact .last hstep

/-- The walk through an object that has leaves. -/
theorem walks_of_leaves (hdecode : e.decode? p = some members) (hleaves : leaves members ≠ [])
    (hfits : ∀ l ∈ leaves members, l.Fits) :
    e.walker.Walks p (e.walker.start p)
      ((leaves members).flatMap fun l => e.contribution members (l.bearer (leaves members))) := by
  obtain ⟨l, back, h⟩ := List.exists_cons_of_ne_nil hleaves
  have hstart : e.walker.start p = ⟨p, [] ++ [.ofLeaf l]⟩ := by
    simp [walker, following, leavesOf_eq hdecode, h]
  have hwalk := walks_from hdecode hfits [] h [] rfl
  rwa [← hstart, ← h] at hwalk

/-- A walk goes on with the reference that it started from, and there are no floats on its
cursors. -/
theorem keeps_floatFree (e : ObjectEncoding P) (q : P) :
    e.walker.Keeps fun a => a.reference = q ∧ ∀ c ∈ a.place, c.accumulator.floatFree = true := by
  intro p a a' r hasNext h ⟨hq, hfree⟩
  have hnext := congrArg Stage.next h
  simp only [walker, step] at hnext
  split at hnext
  · next cursor hcursor =>
    obtain rfl := Except.ok.inj hnext
    refine ⟨hq, fun c hc => ?_⟩
    rcases List.mem_append.1 hc with hc | hc
    · exact hfree c (List.dropLast_subset _ hc)
    · obtain rfl := List.mem_singleton.1 hc
      obtain ⟨taken, htaken, hnext⟩ := Option.bind_eq_some_iff.1 hcursor
      obtain ⟨c', -, hstep⟩ := Option.bind_eq_some_iff.1 htaken
      exact floatFree_of_stepLeaf hstep hnext
  · obtain rfl := Except.ok.inj hnext
    refine ⟨hq, fun c hc => ?_⟩
    rcases List.mem_append.1 hc with hc | hc
    · exact hfree c hc
    · obtain ⟨l, -, rfl⟩ := Option.map_eq_some_iff.1 (Option.mem_toList.1 hc)
      exact Cursor.floatFree_codec _

/-! ### Encodings -/

theorem decode?_objectText (s : String) :
    objectText.decode? s = (Json.parse? s).bind Json.obj? := rfl

theorem decode?_objectBytes (bs : List UInt8) :
    objectBytes.decode? bs = (textOf? bs).bind objectText.decode? := rfl

theorem textOf?_bytesOf (s : String) : textOf? (bytesOf s) = some s := by
  have hbytes : (⟨(bytesOf s).toArray⟩ : ByteArray) = s.toByteArray := by simp [bytesOf]
  rw [textOf?, hbytes, String.fromUTF8?, dif_pos s.isValidUTF8]
  rfl

theorem ordered_of_objectText {s : String} (h : objectText.decode? s = some members) :
    (Json.obj members).ordered = true ∧ (Json.obj members).textsWithin s.length = true := by
  obtain ⟨j, hj, hobj⟩ := Option.bind_eq_some_iff.1 h
  cases j <;> cases hobj
  exact Json.parse?_ordered hj

theorem length_le_size_utf8Encode (cs : List Char) : cs.length ≤ cs.utf8Encode.size := by
  induction cs with
  | nil => simp
  | cons c cs ih =>
      have hc := c.utf8Size_pos
      rw [List.utf8Encode_cons]
      simp [List.utf8Encode_singleton]
      omega

/-- A text has no more characters than bytes. -/
theorem length_textOf? {bs : List UInt8} {s : String} (h : textOf? bs = some s) :
    s.length ≤ bs.length := by
  unfold textOf? String.fromUTF8? at h
  split at h
  · next hvalid =>
    obtain rfl := Option.some.inj h
    have hsize := length_le_size_utf8Encode (String.fromUTF8 ⟨bs.toArray⟩ hvalid).toList
    rwa [String.utf8Encode_toList, String.length_toList] at hsize
  · cases h

theorem ordered_of_objectBytes {bs : List UInt8} (h : objectBytes.decode? bs = some members) :
    (Json.obj members).ordered = true ∧
      ∃ n ≤ bs.length, (Json.obj members).textsWithin n = true := by
  obtain ⟨s, hs, h⟩ := Option.bind_eq_some_iff.1 h
  obtain ⟨hordered, htexts⟩ := ordered_of_objectText h
  exact ⟨hordered, s.length, length_textOf? hs, htexts⟩

/-! ### The whole enumeration -/

theorem textsWithin_of_path? {path : List String} {j v : Json} {n : Nat}
    (hj : j.textsWithin n = true) (h : j.path? path = some v) : v.textsWithin n = true := by
  induction path generalizing j with
  | nil =>
      obtain rfl := Option.some.inj h
      exact hj
  | cons k ks ih =>
      obtain ⟨ms, child, rfl, hchild, hv⟩ := exists_find?_of_path? h
      exact ih (Json.membersWithin_iff.1 hj _ (Entries.mem_of_find? hchild)) hv

/-- A leaf of an object has at most as many mutations as the texts in it have characters, or
one. -/
theorem exists_space {n : Nat} (hordered : (Json.obj members).ordered = true)
    (htexts : (Json.obj members).textsWithin n = true) {l : Leaf} (hl : l ∈ leaves members) :
    ∃ m, leafSpace? l.value = some m ∧ m.count (leafInput l.value) ≤ max 1 n := by
  obtain ⟨hvalue, hspace⟩ := (mem_leaves hordered).1 hl
  obtain ⟨m, hm⟩ := Option.isSome_iff_exists.1 hspace
  exact ⟨m, hm, count_le hm (textsWithin_of_path? htexts hvalue)⟩

/-- A leaf of a payload has no more mutations than this. -/
def BoundedBy (e : ObjectEncoding P) (n : Nat) (p : P) : Prop :=
  ∀ members, e.decode? p = some members → ∀ l ∈ leaves members,
    ∃ m, leafSpace? l.value = some m ∧ m.count (leafInput l.value) ≤ n

theorem boundedBy_objectText {s : String} {n : Nat} (hlength : s.length ≤ n) (hn : 1 ≤ n) :
    objectText.BoundedBy n s := by
  intro members hdecode l hl
  obtain ⟨hordered, htexts⟩ := ordered_of_objectText hdecode
  obtain ⟨m, hm, hcount⟩ := exists_space hordered htexts hl
  exact ⟨m, hm, by omega⟩

theorem boundedBy_objectBytes {bs : List UInt8} {n : Nat} (hlength : bs.length ≤ n) (hn : 1 ≤ n) :
    objectBytes.BoundedBy n bs := by
  intro members hdecode l hl
  obtain ⟨hordered, k, hk, htexts⟩ := ordered_of_objectBytes hdecode
  obtain ⟨m, hm, hcount⟩ := exists_space hordered htexts hl
  exact ⟨m, hm, by omega⟩

theorem BoundedBy.fits {n : Nat} (h : e.BoundedBy n p) (hn : n ≤ 0x10000000000000000)
    (members : List (String × Json)) (hdecode : e.decode? p = some members) :
    ∀ l ∈ leaves members, l.Fits := by
  intro l hl
  obtain ⟨m, hm, hcount⟩ := h members hdecode l hl
  exact ⟨m, hm, Nat.le_trans hcount hn⟩

/-- The walk over a payload goes through the leaves of its object, and changes one at a time. -/
structure Exhausts (e : ObjectEncoding P) (p : P) (members : List (String × Json)) : Prop where
  /-- The leaves are the values of the object that are mutated. -/
  isLeaf : ∀ l, l ∈ leaves members ↔
    (Json.obj members).path? l.path = some l.value ∧ (leafSpace? l.value).isSome = true
  /-- They come in the order of the names on the way. -/
  inOrder : (leaves members).Pairwise fun l l' => PathLt l.path l'.path
  /-- The results of a leaf are those of its own walk. -/
  own : ∀ l ∈ leaves members, ∃ m, leafSpace? l.value = some m ∧
    m.walker.Walks (leafInput l.value) (m.walker.start (leafInput l.value)) l.results
  /-- The walk has the results of one leaf after the other, and then stops. -/
  walk : e.walker.Walks p (e.walker.start p) (if (leaves members).isEmpty then [p]
    else (leaves members).flatMap (e.contribution members))
  /-- A leaf without mutations gives the object once as it is. -/
  unmutated : ∀ l ∈ leaves members, ∀ m, leafSpace? l.value = some m →
    m.count (leafInput l.value) = 0 → e.contribution members l = [e.encode (.obj members)]
  /-- Result by result of the leaf's own walk: the object with another value at the leaf and
  nothing else changed.  That value has the type of the leaf, and the result for its text. -/
  onlyAt : ∀ l ∈ leaves members, List.Forall₂ (fun r q => ∃ j v, q = e.encode j ∧
    Json.OnlyAt l.path (.obj members) j ∧ j.path? l.path = some v ∧ v.type = l.value.type ∧
    leafInput v = r) l.results (e.contribution members l)

theorem exhausts (hdecode : e.decode? p = some members)
    (hnames : ((leaves members).map Leaf.field).Nodup)
    (hordered : (Json.obj members).ordered = true) (hfits : ∀ l ∈ leaves members, l.Fits) :
    e.Exhausts p members where
  isLeaf _ := mem_leaves hordered
  inOrder := leaves_lex hordered
  own l hl := by
    obtain ⟨m, hm, hcount⟩ := hfits l hl
    have hresults : l.results = m.results (leafInput l.value) := by simp [Leaf.results, hm]
    rw [hresults]
    exact ⟨m, hm, Space.walks hcount _⟩
  walk := by
    cases h : (leaves members).isEmpty with
    | true =>
        have hnil : e.leavesOf p = [] := by
          rw [leavesOf_eq hdecode]
          exact List.isEmpty_iff.1 h
        exact walks_of_leavesOf_eq_nil hnil
    | false =>
        have hwalk := walks_of_leaves hdecode (List.isEmpty_eq_false_iff.1 h) hfits
        have hown : (leaves members).flatMap
            (fun l => e.contribution members (l.bearer (leaves members))) =
            (leaves members).flatMap (e.contribution members) :=
          List.flatMap_congr fun l hl => by rw [Leaf.bearer_eq_self hnames hl]
        rwa [hown] at hwalk
  unmutated l hl m hm hzero := by
    obtain ⟨hresults, hrestore⟩ := restore_of_count_eq_zero hm hzero
    have hsame := putAt_self hordered ((mem_leaves hordered).1 hl).1
    simp [contribution, Leaf.results, hm, hresults, hrestore, hsame]
  onlyAt l hl := by
    obtain ⟨hvalue, hspace⟩ := (mem_leaves hordered).1 hl
    obtain ⟨m, hm⟩ := Option.isSome_iff_exists.1 hspace
    refine List.forall₂_map_right_iff.2 (List.forall₂_same.2 fun r hr => ?_)
    rw [Leaf.results, hm] at hr
    obtain ⟨honly, hnew⟩ := onlyAt_putAt hordered hvalue (restore l.value r)
    exact ⟨_, _, rfl, honly, hnew, type_restore hm hr, leafInput_restore hm hr⟩

/-- Objects are enumerated leaf by leaf, in either encoding.  Payloads are no longer than a word
can count, as are all that a machine holds. -/
theorem objects_exhausted :
    (∀ (s : String) (members : List (String × Json)), s.length ≤ 0x10000000000000000 →
      objectText.decode? s = some members → ((leaves members).map Leaf.field).Nodup →
      objectText.Exhausts s members) ∧
    ∀ (bs : List UInt8) (members : List (String × Json)), bs.length ≤ 0x10000000000000000 →
      objectBytes.decode? bs = some members → ((leaves members).map Leaf.field).Nodup →
      objectBytes.Exhausts bs members := by
  constructor
  · intro s members hlength hdecode hnames
    have hbounded := boundedBy_objectText hlength (by decide)
    exact exhausts hdecode hnames (ordered_of_objectText hdecode).1
      (hbounded.fits (Nat.le_refl _) members hdecode)
  · intro bs members hlength hdecode hnames
    have hbounded := boundedBy_objectBytes hlength (by decide)
    exact exhausts hdecode hnames (ordered_of_objectBytes hdecode).1
      (hbounded.fits (Nat.le_refl _) members hdecode)

/-- An object with a truth value, and with an integer and the empty text further in. -/
def nestedObject : List (String × Json) :=
  [("a", .bool true), ("b", .obj [("c", .ofNat 5), ("d", .str "")])]

theorem plain_nestedObject : (Json.obj nestedObject).Plain :=
  ⟨rfl, by decide⟩

theorem decode?_nestedObject :
    objectText.decode? (Json.obj nestedObject).compact = some nestedObject := by
  have hparse := Json.parse?_compact plain_nestedObject (by decide)
  rw [decode?_objectText, hparse]
  rfl

theorem objects_exhausted_nestedObject :
    ((leaves nestedObject).map Leaf.field).Nodup ∧
    objectText.decode? (Json.obj nestedObject).compact = some nestedObject ∧
    objectText.Exhausts (Json.obj nestedObject).compact nestedObject ∧
    objectBytes.decode? (bytesOf (Json.obj nestedObject).compact) = some nestedObject ∧
    objectBytes.Exhausts (bytesOf (Json.obj nestedObject).compact) nestedObject := by
  have hnames : ((leaves nestedObject).map Leaf.field).Nodup := by decide
  have hbytes : objectBytes.decode? (bytesOf (Json.obj nestedObject).compact) =
      some nestedObject := by
    rw [decode?_objectBytes, textOf?_bytesOf]
    exact decode?_nestedObject
  exact ⟨hnames, decode?_nestedObject,
    objects_exhausted.1 _ _ (by decide) decode?_nestedObject hnames, hbytes,
    objects_exhausted.2 _ _ (by decide) hbytes hnames⟩

end ObjectEncoding

end Faultline.Mutation
