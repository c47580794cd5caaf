import Faultline.Proofs.Json.Divergence
import Faultline.Proofs.Json.Limit
import Faultline.Proofs.Mutation.Positions
import Faultline.Proofs.Mutation.Values

/-!
# Enumerations without waste

The results of an object are other objects, and all of them different, but for its empty texts: an
empty text has no mutation, and yields the object once as it is (`Device.objects_without_waste`).
Results of two leaves are told apart at the place of the first one, which the second has left as it
is; results of one leaf are told apart at its own place.
-/

namespace Faultline

namespace Mutation

open Json

/-! ### Values put at two places -/

/-- Two values put at one place are told apart there. -/
theorem diverge_putAt {path : List String} {j old : Json} (hj : j.ordered = true)
    (h : j.path? path = some old) (v w : Json) :
    Diverge v w (putAt v path j) (putAt w path j) := by
  induction path generalizing j with
  | nil =>
      rw [putAt, putAt]
      exact .here
  | cons k ks ih =>
      obtain ⟨ms, child, rfl, hchild, hold⟩ := exists_find?_of_path? h
      obtain ⟨hsorted, hmembers⟩ := ordered_obj.1 hj
      obtain ⟨front, back, hms, hinsert⟩ := Entries.exists_insert_eq hsorted hchild
      have hmem := Entries.mem_of_find? hchild
      rw [putAt_cons hchild, putAt_cons hchild, hinsert, hinsert]
      exact .member (ih (orderedMembers_iff.1 hmembers _ hmem) hold)

/-- A value put at a place is told there from the one that it replaces. -/
theorem diverge_putAt_self {path : List String} {j old : Json} (hj : j.ordered = true)
    (h : j.path? path = some old) (v : Json) : Diverge v old (putAt v path j) j := by
  have hdiverge := diverge_putAt hj h v old
  rwa [putAt_self hj h] at hdiverge

/-- Values put at two places are told apart at the first one, which the second leaves as it is. -/
theorem diverge_putAt_of_pathLt {path path' : List String} {j old old' : Json}
    (hlt : PathLt path path') (hj : j.ordered = true) (h : j.path? path = some old)
    (h' : j.path? path' = some old') (hold : ∀ ms, old ≠ .obj ms) (v w : Json) :
    Diverge v old (putAt v path j) (putAt w path' j) := by
  induction hlt generalizing j with
  | nil =>
      obtain ⟨ms, -, rfl, -⟩ := exists_find?_of_path? h'
      exact absurd (Option.some.inj h).symm (hold ms)
  | @cons k ks ks' _ ih =>
      obtain ⟨ms, child, rfl, hchild, hvalue⟩ := exists_find?_of_path? h
      obtain ⟨_, child', heq, hchild', hvalue'⟩ := exists_find?_of_path? h'
      obtain rfl := Json.obj.inj heq
      obtain rfl : child = child' := Option.some.inj (hchild.symm.trans hchild')
      obtain ⟨hsorted, hmembers⟩ := ordered_obj.1 hj
      obtain ⟨front, back, hms, hinsert⟩ := Entries.exists_insert_eq hsorted hchild
      have hmem := Entries.mem_of_find? hchild
      rw [putAt_cons hchild, putAt_cons hchild, hinsert, hinsert]
      exact .member (ih (orderedMembers_iff.1 hmembers _ hmem) hvalue hvalue')
  | @rel k ks k' ks' hk =>
      obtain ⟨ms, child, rfl, hchild, hvalue⟩ := exists_find?_of_path? h
      obtain ⟨_, child', heq, hchild', -⟩ := exists_find?_of_path? h'
      obtain rfl := Json.obj.inj heq
      obtain ⟨hsorted, hmembers⟩ := ordered_obj.1 hj
      obtain ⟨front, back, rfl, hinsert⟩ := Entries.exists_insert_eq hsorted hchild
      have hmem := Entries.mem_of_find? hchild
      have hbehind : ∀ e ∈ front ++ [(k, child)], e.1 < k' := by
        intro e he
        rcases List.mem_append.1 he with he | he
        · have hbefore := (List.pairwise_append.1 hsorted).2.2 e he _ List.mem_cons_self
          exact String.lt_trans hbefore hk
        · rw [List.mem_singleton.1 he]
          exact hk
      have hkept := Entries.insert_append_of_forall_lt hbehind (putAt w ks' child') back
      simp only [List.append_assoc, List.singleton_append] at hkept
      rw [putAt_cons hchild, putAt_cons hchild', hinsert, hkept]
      exact .member (diverge_putAt_self (orderedMembers_iff.1 hmembers _ hmem) hvalue v)

/-- A plain value that is put into a plain one keeps it plain, and nests it no deeper. -/
theorem plain_putAt {path : List String} {j old v : Json} (hj : j.Plain)
    (h : j.path? path = some old) (hv : v.Plain) (hdepth : v.depth = 0) :
    (putAt v path j).Plain ∧ (putAt v path j).depth ≤ j.depth := by
  induction path generalizing j with
  | nil =>
      rw [putAt, hdepth]
      exact ⟨hv, Nat.zero_le _⟩
  | cons k ks ih =>
      obtain ⟨ms, child, rfl, hchild, hold⟩ := exists_find?_of_path? h
      obtain ⟨hsorted, hmembers⟩ := plain_obj.1 hj
      have hmem := Entries.mem_of_find? hchild
      obtain ⟨hplain, hle⟩ := ih (hmembers _ hmem) hold
      have hms := membersDepth_le.1 (Nat.le_refl (membersDepth ms))
      rw [putAt_cons hchild, plain_obj, depth, depth, Nat.add_le_add_iff_right, membersDepth_le]
      refine ⟨⟨Entries.sorted_insert hsorted k _, fun m hm => ?_⟩, fun m hm => ?_⟩
      · rcases Entries.mem_insert hm with rfl | hm
        · exact hplain
        · exact hmembers m hm
      · rcases Entries.mem_insert hm with rfl | hm
        · exact Nat.le_trans hle (hms _ hmem)
        · exact hms m hm

namespace Leaf

variable {l : Leaf}

/-- The values that a leaf is given in place of its own. -/
def others (l : Leaf) : List Json :=
  if l.size = 0 then [] else l.values

theorem others_of_size_pos (h : 0 < l.size) : l.others = l.values := by
  rw [others, if_neg (by omega)]

theorem fresh_others (h : (leafSpace? l.value).isSome = true) :
    l.others.length = l.size ∧ l.others.Nodup ∧ l.value ∉ l.others := by
  have hgiven := given h
  unfold others
  generalize l.size = n, l.values = vs at hgiven ⊢
  cases hgiven with
  | idle => simp
  | fresh _ hn length different other =>
      rw [if_neg (by omega)]
      exact ⟨length, different, other⟩

theorem mem_values_of_mem_others {v : Json} (h : v ∈ l.others) : v ∈ l.values := by
  unfold others at h
  split at h
  · cases h
  · exact h

end Leaf

namespace ObjectEncoding

variable {P : Type} {e : ObjectEncoding P} {p : P} {members : List (String × Json)} {l l' : Leaf}

/-- Objects are told apart by their compact texts, and read back where they have no floats. -/
structure Faithful (e : ObjectEncoding P) : Prop where
  chars : ∀ {j j'}, e.encode j = e.encode j' → Json.chars j = Json.chars j'
  decode? : ∀ {ms}, (Json.obj ms).Plain → (Json.obj ms).depth < Document.nestingLimit →
    e.decode? (e.encode (.obj ms)) = some ms
  reads : ∀ {p ms}, e.decode? p = some ms →
    (Json.obj ms).ordered = true ∧ (Json.obj ms).depth < Document.nestingLimit

theorem faithful_objectText : objectText.Faithful where
  chars h := String.ofList_injective h
  decode? hplain hdepth := by
    rw [decode?_objectText]
    exact Option.bind_eq_some_iff.2 ⟨_, Json.parse?_compact hplain hdepth, rfl⟩
  reads h := by
    refine ⟨(ordered_of_objectText h).1, ?_⟩
    obtain ⟨j, hj, hobj⟩ := Option.bind_eq_some_iff.1 h
    cases j <;> cases hobj
    exact Json.depth_lt_of_parse? hj

theorem faithful_objectBytes : objectBytes.Faithful where
  chars {j j'} h := by
    have htext : some j.compact = some j'.compact := by
      rw [← textOf?_bytesOf, ← textOf?_bytesOf]
      exact congrArg textOf? h
    exact String.ofList_injective (Option.some.inj htext)
  decode? hplain hdepth := by
    rw [decode?_objectBytes]
    exact Option.bind_eq_some_iff.2 ⟨_, textOf?_bytesOf _,
      faithful_objectText.decode? hplain hdepth⟩
  reads h := by
    obtain ⟨s, -, h⟩ := Option.bind_eq_some_iff.1 h
    exact faithful_objectText.reads h

/-! ### The results of a leaf -/

/-- What a leaf adds to the walk that is not the object as it is. -/
def freshOf (e : ObjectEncoding P) (members : List (String × Json)) (l : Leaf) : List P :=
  l.others.map fun v => e.encode (putAt v l.path (.obj members))

theorem contribution_eq (e : ObjectEncoding P) (members : List (String × Json)) (l : Leaf) :
    e.contribution members l =
      l.values.map fun v => e.encode (putAt v l.path (.obj members)) := by
  simp [contribution, Leaf.values, Function.comp_def]

theorem contribution_of_size_pos (h : 0 < l.size) :
    e.contribution members l = e.freshOf members l := by
  rw [contribution_eq, freshOf, Leaf.others_of_size_pos h]

section Leaves

variable (hordered : (Json.obj members).ordered = true) (hl : l ∈ leaves members)
include hordered hl

theorem contribution_of_size_zero (h : l.size = 0) :
    e.contribution members l = [e.encode (.obj members)] ∧ e.freshOf members l = [] := by
  obtain ⟨hvalue, hspace⟩ := (mem_leaves hordered).1 hl
  have hgiven := Leaf.given hspace
  rw [h] at hgiven
  generalize hvs : l.values = vs at hgiven
  cases hgiven with
  | idle =>
      rw [contribution_eq, hvs, List.map_singleton, putAt_self hordered hvalue, freshOf,
        Leaf.others, if_pos h]
      exact ⟨rfl, rfl⟩
  | fresh _ hn => exact absurd hn (Nat.lt_irrefl 0)

/-- A result that is not the object as it is encodes another object. -/
theorem other_of_mem_freshOf (he : e.Faithful)
    (hdepth : (Json.obj members).depth < Document.nestingLimit) {q : P}
    (hq : q ∈ e.freshOf members l) :
    q ≠ e.encode (.obj members) ∧ ∃ ms, q = e.encode (.obj ms) ∧
      (Json.obj ms).same (.obj members) = false ∧
      ((Json.obj members).floatFree = true → e.decode? q = some ms) := by
  obtain ⟨hvalue, hspace⟩ := (mem_leaves hordered).1 hl
  obtain ⟨v, hv, rfl⟩ := List.mem_map.1 hq
  have hne : v ≠ l.value := fun hsame => (Leaf.fresh_others hspace).2.2 (hsame ▸ hv)
  have hscalar := List.forall_mem_cons.1 (Leaf.scalar hspace)
  obtain ⟨hplain, hflat⟩ := hscalar.2 v (Leaf.mem_values_of_mem_others hv)
  have hdiverge := diverge_putAt_self hordered hvalue v
  refine ⟨fun hsame => hdiverge.chars_ne hplain hscalar.1.1 hne (he.chars hsame), ?_⟩
  obtain ⟨ms, hms⟩ : ∃ ms, putAt v l.path (.obj members) = .obj ms := by
    cases hpath : l.path with
    | nil =>
        rw [hpath] at hvalue
        rw [← Option.some.inj hvalue] at hspace
        cases hspace
    | cons k ks =>
        rw [hpath] at hvalue
        obtain ⟨_, child, heq, hchild, -⟩ := exists_find?_of_path? hvalue
        obtain rfl := Json.obj.inj heq
        exact ⟨_, putAt_cons hchild v⟩
  rw [hms] at hdiverge ⊢
  refine ⟨ms, rfl, hdiverge.same_eq_false hplain hscalar.1.1 hne, fun hfree => ?_⟩
  obtain ⟨hread, hle⟩ := plain_putAt ⟨hfree, hordered⟩ hvalue hplain hflat
  rw [hms] at hread hle
  exact he.decode? hread (Nat.lt_of_le_of_lt hle hdepth)

/-- No two mutations of a leaf give the same result. -/
theorem nodup_freshOf (he : e.Faithful) : (e.freshOf members l).Nodup := by
  obtain ⟨hvalue, hspace⟩ := (mem_leaves hordered).1 hl
  have hscalar := (List.forall_mem_cons.1 (Leaf.scalar hspace)).2
  refine (Leaf.fresh_others hspace).2.1.map_on fun v hv w hw hsame => ?_
  have hplain := (hscalar v (Leaf.mem_values_of_mem_others hv)).1
  have hplain' := (hscalar w (Leaf.mem_values_of_mem_others hw)).1
  exact Classical.byContradiction fun hne =>
    (diverge_putAt hordered hvalue v w).chars_ne hplain hplain' hne (he.chars hsame)

/-- No two leaves give the same result. -/
theorem disjoint_freshOf (he : e.Faithful) (hl' : l' ∈ leaves members)
    (hlt : PathLt l.path l'.path) :
    List.Disjoint (e.freshOf members l) (e.freshOf members l') := by
  obtain ⟨hvalue, hspace⟩ := (mem_leaves hordered).1 hl
  obtain ⟨hvalue', -⟩ := (mem_leaves hordered).1 hl'
  have hscalar := List.forall_mem_cons.1 (Leaf.scalar hspace)
  have hatom : ∀ ms, l.value ≠ .obj ms := by
    intro ms hobj
    rw [hobj] at hspace
    cases hspace
  intro q hq hq'
  obtain ⟨v, hv, rfl⟩ := List.mem_map.1 hq
  obtain ⟨w, -, hsame⟩ := List.mem_map.1 hq'
  have hne : v ≠ l.value := fun heq => (Leaf.fresh_others hspace).2.2 (heq ▸ hv)
  have hplain := (hscalar.2 v (Leaf.mem_values_of_mem_others hv)).1
  exact (diverge_putAt_of_pathLt hlt hordered hvalue hvalue' hatom v w).chars_ne hplain
    hscalar.1.1 hne (he.chars hsame.symm)

end Leaves

/-! ### The whole enumeration -/

/-- The results of an object: the object as it is, once for each empty text, and fresh ones. -/
structure Frugal (e : ObjectEncoding P) (members : List (String × Json)) (rs fresh : List P) :
    Prop where
  /-- The empty texts are the leaves without mutations. -/
  idle : ∀ l ∈ leaves members, l.size = 0 ↔ l.value = .str ""
  split : rs.Perm (List.replicate ((leaves members).countP fun l => l.size == 0)
    (e.encode (.obj members)) ++ fresh)
  whole : (∀ l ∈ leaves members, l.value ≠ .str "") → rs = fresh
  /-- Each leaf has as many fresh results as it has mutations. -/
  length : fresh.length = ((leaves members).map Leaf.size).sum
  different : fresh.Nodup
  other : ∀ q ∈ fresh, q ≠ e.encode (.obj members) ∧ ∃ ms, q = e.encode (.obj ms) ∧
    (Json.obj ms).same (.obj members) = false ∧
    ((Json.obj members).floatFree = true → e.decode? q = some ms)

theorem perm_contributions (hordered : (Json.obj members).ordered = true) {ls : List Leaf}
    (hls : ∀ l ∈ ls, l ∈ leaves members) :
    (ls.flatMap (e.contribution members)).Perm
      (List.replicate (ls.countP fun l => l.size == 0) (e.encode (.obj members)) ++
        ls.flatMap (e.freshOf members)) := by
  induction ls with
  | nil => exact List.Perm.refl _
  | cons l ls ih =>
      obtain ⟨hl, hls⟩ := List.forall_mem_cons.1 hls
      rw [List.flatMap_cons, List.flatMap_cons, List.countP_cons]
      by_cases hsize : l.size = 0
      · obtain ⟨hcontribution, hfresh⟩ := contribution_of_size_zero (e := e) hordered hl hsize
        rw [hcontribution, hfresh, if_pos (beq_iff_eq.2 hsize), List.replicate_succ]
        exact (ih hls).cons _
      · have hcontribution : e.contribution members l = e.freshOf members l :=
          contribution_of_size_pos (Nat.pos_of_ne_zero hsize)
        rw [hcontribution, if_neg (by simpa using hsize)]
        exact ((ih hls).append_left _).trans (List.perm_append_comm_assoc _ _ _)

theorem frugal (he : e.Faithful) (hdecode : e.decode? p = some members) :
    e.Frugal members ((leaves members).flatMap (e.contribution members))
      ((leaves members).flatMap (e.freshOf members)) := by
  obtain ⟨hordered, hdepth⟩ := he.reads hdecode
  have hspace : ∀ l ∈ leaves members, (leafSpace? l.value).isSome = true :=
    fun l hl => ((mem_leaves hordered).1 hl).2
  have hidle : ∀ l ∈ leaves members, l.size = 0 ↔ l.value = .str "" :=
    fun l hl => Leaf.size_eq_zero_iff (hspace l hl)
  refine ⟨hidle, perm_contributions hordered fun _ => id, fun hnone => ?_, ?_, ?_, ?_⟩
  · refine List.flatMap_congr fun l hl => contribution_of_size_pos ?_
    exact Nat.pos_of_ne_zero fun hzero => hnone l hl ((hidle l hl).1 hzero)
  · rw [List.length_flatMap]
    refine congrArg List.sum (List.map_congr_left fun l hl => ?_)
    rw [freshOf, List.length_map]
    exact (Leaf.fresh_others (hspace l hl)).1
  · refine List.nodup_flatMap.2 ⟨fun l hl => nodup_freshOf hordered hl he, ?_⟩
    exact (leaves_lex hordered).imp_of_mem fun hl hl' hlt =>
      disjoint_freshOf hordered hl he hl' hlt
  · intro q hq
    obtain ⟨l, hl, hq⟩ := List.mem_flatMap.1 hq
    exact other_of_mem_freshOf hordered hl he hdepth hq

end ObjectEncoding

end Mutation

namespace Device

open Mutation ObjectEncoding

variable {P : Type} {e : ObjectEncoding P} {c : Codec P} {payload : Json} {x : P}
variable {members : List (String × Json)}

/-- An object is enumerated to the end of the walk through it. -/
theorem enumerates_ofObjects (hc : c.Lossless) (hx : c.read? payload = some x)
    (hcountable : e.Countable x) {rs : List P}
    (hwalk : e.walker.Walks x (e.walker.start x) rs) (kind : TransformerKind) :
    (ofObjects kind e c).Enumerates payload (rs.map c.write) :=
  enumerates_ofMachine hc Cursor.lossless_listCodec hx rfl hcountable.stage_machine hwalk kind
    c.write

theorem exists_frugal (he : e.Faithful) (hc : c.Lossless) (hx : c.read? payload = some x)
    (hcountable : e.Countable x) (hdecode : e.decode? x = some members)
    (hnames : ((leaves members).map Leaf.field).Nodup) (hleaves : leaves members ≠ [])
    (kind : TransformerKind) :
    ∃ rs fresh, (ofObjects kind e c).Enumerates payload (rs.map c.write) ∧
      e.Frugal members rs fresh := by
  have hexhausts := exhausts hdecode hnames (he.reads hdecode).1 (hcountable.fits members hdecode)
  have hwalk := hexhausts.walk
  rw [if_neg (by simpa using hleaves)] at hwalk
  exact ⟨_, _, enumerates_ofObjects hc hx hcountable hwalk kind, frugal he hdecode⟩

/-- An object in either encoding, whose leaves have different names, is enumerated by as many other
objects as its leaves have mutations, all of them different.  Where a leaf is the empty text the
object itself comes as well, and elsewhere nothing else does.  Payloads are no longer than a word
can count, as are all that a machine holds. -/
theorem objects_without_waste (exceptions : List StoreException) :
    (∀ (s : String) (members : List (String × Json)), s.length < 0x10000000000000000 →
      objectText.decode? s = some members → ((leaves members).map Leaf.field).Nodup →
      leaves members ≠ [] → ∃ rs fresh,
        (make exceptions .objectText).Enumerates (.str s) (rs.map .str) ∧
        objectText.Frugal members rs fresh) ∧
    ∀ (payload : Json) (bs : List UInt8) (members : List (String × Json)),
      Codec.bytes.read? payload = some bs → bs.length < 0x10000000000000000 →
      objectBytes.decode? bs = some members → ((leaves members).map Leaf.field).Nodup →
      leaves members ≠ [] → ∃ rs fresh,
        (make exceptions .objectBytes).Enumerates payload (rs.map Codec.writeBytes) ∧
        objectBytes.Frugal members rs fresh := by
  constructor
  · intro s members hlength hdecode hnames hleaves
    exact exists_frugal faithful_objectText Codec.lossless_text rfl
      (countable_objectText hlength) hdecode hnames hleaves .objectText
  · intro payload bs members hread hlength hdecode hnames hleaves
    exact exists_frugal faithful_objectBytes Codec.lossless_bytes hread
      (countable_objectBytes hlength) hdecode hnames hleaves .objectBytes

theorem objects_without_waste_nestedObject :
    let text := (Json.obj nestedObject).compact
    leaves nestedObject ≠ [] ∧ ((leaves nestedObject).map Leaf.field).Nodup ∧
    objectText.decode? text = some nestedObject ∧
    objectBytes.decode? (bytesOf text) = some nestedObject ∧
    (∃ rs fresh, (make [] .objectText).Enumerates (.str text) (rs.map .str) ∧
      objectText.Frugal nestedObject rs fresh) ∧
    ∃ rs fresh, (make [] .objectBytes).Enumerates (Codec.writeBytes (bytesOf text))
      (rs.map Codec.writeBytes) ∧ objectBytes.Frugal nestedObject rs fresh := by
  intro text
  have hleaves : leaves nestedObject ≠ [] := by decide
  have hnames : ((leaves nestedObject).map Leaf.field).Nodup := by decide
  have hbytes : objectBytes.decode? (bytesOf text) = some nestedObject := by
    rw [decode?_objectBytes, textOf?_bytesOf]
    exact decode?_nestedObject
  obtain ⟨htext, hbytesText⟩ := objects_without_waste []
  exact ⟨hleaves, hnames, decode?_nestedObject, hbytes,
    htext text nestedObject (by decide) decode?_nestedObject hnames hleaves,
    hbytesText _ _ nestedObject (Codec.lossless_bytes _) (by decide) hbytes hnames hleaves⟩

/-- An object with an empty text beside a truth value. -/
def idleObject : List (String × Json) :=
  [("a", .str ""), ("b", .bool true)]

/-- An empty text gives the object back as it is, and one result more than there are mutations. -/
theorem empty_text_yields_reference :
    let text := (Json.obj idleObject).compact
    objectText.decode? text = some idleObject ∧
    ((leaves idleObject).map Leaf.field).Nodup ∧
    (∃ l ∈ leaves idleObject, 0 < l.size) ∧
    ((leaves idleObject).map Leaf.size).sum = 1 ∧
    (make [] .objectText).Enumerates (.str text)
      [.str text, .str (Json.obj [("a", .str ""), ("b", .bool false)]).compact] := by
  intro text
  have hlist : leaves idleObject = [⟨["a"], .str ""⟩, ⟨["b"], .bool true⟩] := by cbv
  have hplain : (Json.obj idleObject).Plain := ⟨rfl, by decide⟩
  have hdecode := faithful_objectText.decode? hplain (by decide)
  have hnames : ((leaves idleObject).map Leaf.field).Nodup := by decide
  have hlength : text.length < 0x10000000000000000 := by decide
  have hcountable : objectText.Countable text := countable_objectText hlength
  have hwalk := (exhausts hdecode hnames hplain.ordered (hcountable.fits _ hdecode)).walk
  have hresults : (leaves idleObject).flatMap (objectText.contribution idleObject) =
      [text, (Json.obj [("a", .str ""), ("b", .bool false)]).compact] := by decide
  rw [if_neg (by simp [hlist]), hresults] at hwalk
  exact ⟨hdecode, hnames, ⟨⟨["b"], .bool true⟩, by simp [hlist], by decide⟩, by decide,
    enumerates_ofObjects Codec.lossless_text rfl hcountable hwalk .objectText⟩

end Device

end Faultline
