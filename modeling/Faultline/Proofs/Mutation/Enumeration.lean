import Faultline.Proofs.Mutation.Kinds
import Faultline.Proofs.Sameness
import Faultline.Registry

/-!
# Transformers from start to end

`Transformer.Visits` follows a transformer through its accumulators, and `Instance.Drives` one
instance with all that it remembers.  Every transformer that a registry creates comes to an end on
every payload that it accepts (`exists_visits`), and no accumulator comes twice, however it is
compared: the walk from an accumulator is determined, and the walks get shorter.
-/

namespace Faultline

/-- A registry makes the transformer of the kind that it is asked for. -/
theorem Registry.eq_make_of_create {r : Registry} {k : TransformerKind} {t : Transformer}
    (hcreate : r.create k = .ok t) : t = .make r.exceptions k := by
  unfold create at hcreate
  split at hcreate
  · cases hcreate
  · exact (Except.ok.inj hcreate).symm

namespace Transformer

variable {t : Transformer} {payload acc : Json} {vs : List (Json × Json)}

/-- The accumulators of a transformer from a first one to the end, each with its result. -/
inductive Visits (t : Transformer) (payload : Json) : Json → List (Json × Json) → Prop
  | last {acc r : Json} {next : Except Violation Json}
      (h : t.step payload acc = .ok ⟨r, false, next⟩) : Visits t payload acc [(acc, r)]
  | more {acc acc' r : Json} {vs : List (Json × Json)}
      (h : t.step payload acc = .ok ⟨r, true, .ok acc'⟩) (rest : Visits t payload acc' vs) :
      Visits t payload acc ((acc, r) :: vs)

namespace Instance

/-- One instance driven over a payload, from an accumulator to the end, with the results that it
gives. -/
inductive Drives (payload : Json) : Instance → Json → List Json → Prop
  | last {i i' : Instance} {acc r : Json} (h : i.transform payload acc = .ok i')
      (hresult : i'.result = .ok r) (hnext : i'.hasNext = false) : Drives payload i acc [r]
  | more {i i' : Instance} {acc acc' r : Json} {rs : List Json}
      (h : i.transform payload acc = .ok i') (hresult : i'.result = .ok r)
      (hmore : i'.hasNext = true) (hnext : i'.next = .ok acc') (rest : Drives payload i' acc' rs) :
      Drives payload i acc (r :: rs)

/-- What an instance remembers does not matter to what it does next. -/
theorem transform_eq (last : Option Mutated) {m : Mutated} (h : t.step payload acc = .ok m) :
    transform ⟨t, last⟩ payload acc = .ok ⟨t, some m⟩ := by
  simp only [transform, h]
  rfl

end Instance

theorem Visits.drives (h : t.Visits payload acc vs) (last : Option Mutated) :
    Instance.Drives payload ⟨t, last⟩ acc (vs.map (·.2)) := by
  induction h generalizing last with
  | last h => exact .last (Instance.transform_eq last h) rfl rfl
  | more h _ ih => exact .more (Instance.transform_eq last h) rfl rfl rfl (ih _)

theorem Visits.exists_cons (h : t.Visits payload acc vs) : ∃ r rest, vs = (acc, r) :: rest := by
  cases h with
  | last h => exact ⟨_, _, rfl⟩
  | more h rest => exact ⟨_, _, rfl⟩

/-- Accumulators that can be told from each other, and from the start. -/
structure Apart (vs : List (Json × Json)) : Prop where
  different : vs.Pairwise fun v v' => v.1.same v'.1 = false
  notNull : ∀ v ∈ vs, v.1.isNull = false

theorem Apart.tail {v : Json × Json} (h : Apart (v :: vs)) : Apart vs :=
  ⟨(List.pairwise_cons.1 h.different).2, fun v hv => h.notNull v (List.mem_cons_of_mem _ hv)⟩

/-! ### Walks as visits -/

section Walks

variable {P C O : Type} {kind : TransformerKind} {w : Walker P C O} {size : P → Nat} {empty : P}
variable {p : Codec P} {c : Codec C} {write : O → Json} {x : P} {a b : Accumulator P C}

theorem start_ofWalker (h : (ofWalker kind w size empty p c write).start payload = .ok acc) :
    ∃ x, p.read? payload = some x ∧ acc = (Codec.accumulator p c).write (w.start x) := by
  simp only [ofWalker, readPayload] at h
  cases hx : p.read? payload with
  | none => simp [hx, bind, Except.bind] at h
  | some x =>
      simp only [hx] at h
      exact ⟨x, rfl, (Except.ok.inj h).symm⟩

theorem step_ofWalker (hp : p.Lossless) (hc : c.Lossless) (hx : p.read? payload = some x)
    {s : Stage P C O} (h : w.step x a = s) :
    (ofWalker kind w size empty p c write).step payload ((Codec.accumulator p c).write a) =
      .ok ⟨write s.result, s.hasNext, s.next.map (Codec.accumulator p c).write⟩ := by
  simp only [ofWalker, readPayload, readAccumulator, hx, hp.accumulator hc a, ← h]
  rfl

/-- Accumulators of one reference that are written the same are the same. -/
theorem eq_of_same_write (hc : c.Lossless) (ha : (c.write a.place).floatFree = true)
    (hb : (c.write b.place).floatFree = true) (hreference : a.reference = b.reference)
    (h : ((Codec.accumulator p c).write a).same ((Codec.accumulator p c).write b) = true) :
    a = b := by
  rw [Json.same_iff, Codec.write_accumulator, Codec.write_accumulator] at h
  simp only [Json.canonical, Json.canonicalMembers, Json.obj.injEq, List.cons.injEq,
    Prod.mk.injEq, true_and, and_true] at h
  have hplace : a.place = b.place := by
    have hread := congrArg c.read? (Json.eq_of_same (Json.same_iff.2 h.1) ha hb)
    rw [hc, hc] at hread
    exact Option.some.inj hread
  cases a
  cases b
  simp_all

/-- Of two walks, the accumulators of the longer one and the shorter one differ. -/
theorem same_write_of_length_lt {I : Accumulator P C → Prop}
    (htell : ∀ {a b}, I a → I b →
      ((Codec.accumulator p c).write a).same ((Codec.accumulator p c).write b) = true → a = b)
    (ha : I a) (hb : I b) {rs rs' : List O} (hwalk : w.Walks x a rs) (hwalk' : w.Walks x b rs')
    (hlt : rs'.length < rs.length) :
    ((Codec.accumulator p c).write a).same ((Codec.accumulator p c).write b) = false := by
  cases hsame : ((Codec.accumulator p c).write a).same ((Codec.accumulator p c).write b) with
  | false => rfl
  | true =>
      obtain rfl := htell ha hb hsame
      rw [hwalk.unique hwalk'] at hlt
      exact absurd hlt (Nat.lt_irrefl _)

/-- A walk to its end is one of the transformer.  No two of its accumulators are written the
same, since the walks that are left get shorter. -/
theorem exists_visits_of_walks (hp : p.Lossless) (hc : c.Lossless)
    (hx : p.read? payload = some x) {I : Accumulator P C → Prop} (hkeeps : w.Keeps I)
    (htell : ∀ {a b}, I a → I b →
      ((Codec.accumulator p c).write a).same ((Codec.accumulator p c).write b) = true → a = b)
    {rs : List O} (hwalk : w.Walks x a rs) (ha : I a) :
    ∃ vs, (ofWalker kind w size empty p c write).Visits payload
        ((Codec.accumulator p c).write a) vs ∧
      vs.Pairwise (fun v v' => v.1.same v'.1 = false) ∧
      ∀ v ∈ vs, ∃ b rs', v.1 = (Codec.accumulator p c).write b ∧ I b ∧ w.Walks x b rs' ∧
        rs'.length ≤ rs.length := by
  induction hwalk with
  | @last a r next hstep =>
      refine ⟨_, .last (step_ofWalker hp hc hx hstep), List.pairwise_singleton _ _, ?_⟩
      intro v hv
      rw [List.mem_singleton.1 hv]
      exact ⟨a, [r], rfl, ha, .last hstep, Nat.le_refl _⟩
  | @more a a' r rs hstep hrest ih =>
      obtain ⟨vs, hvisits, hdifferent, hleft⟩ := ih (hkeeps hstep ha)
      refine ⟨_, .more (step_ofWalker hp hc hx hstep) hvisits,
        List.pairwise_cons.2 ⟨?_, hdifferent⟩, ?_⟩
      · intro v hv
        obtain ⟨b, rs', hb, hI, hwalk, hle⟩ := hleft v hv
        rw [hb]
        exact same_write_of_length_lt htell ha hI (.more hstep hrest) hwalk
          (Nat.lt_succ_of_le hle)
      · intro v hv
        rcases List.mem_cons.1 hv with rfl | hv
        · exact ⟨a, _, rfl, ha, .more hstep hrest, Nat.le_refl _⟩
        · obtain ⟨b, rs', hb, hI, hwalk, hle⟩ := hleft v hv
          exact ⟨b, rs', hb, hI, hwalk, Nat.le_succ_of_le hle⟩

theorem exists_apart_of_walks (hp : p.Lossless) (hc : c.Lossless)
    (hx : p.read? payload = some x) {I : Accumulator P C → Prop} (hkeeps : w.Keeps I)
    (htell : ∀ {a b}, I a → I b →
      ((Codec.accumulator p c).write a).same ((Codec.accumulator p c).write b) = true → a = b)
    {rs : List O} (hwalk : w.Walks x a rs) (ha : I a) :
    ∃ vs, (ofWalker kind w size empty p c write).Visits payload
      ((Codec.accumulator p c).write a) vs ∧ Apart vs := by
  obtain ⟨vs, hvisits, hdifferent, hleft⟩ := exists_visits_of_walks hp hc hx hkeeps htell hwalk ha
  refine ⟨vs, hvisits, hdifferent, fun v hv => ?_⟩
  obtain ⟨b, rs', hb, -, -, -⟩ := hleft v hv
  rw [hb, Codec.write_accumulator]
  rfl

end Walks

/-! ### Every kind -/

section Kinds

variable {P O : Type} {kind : TransformerKind} {empty : P} {p : Codec P}

theorem exists_apart_of_space (hp : p.Lossless) {m : Space P O} {write : O → Json}
    (hcount : ∀ x, p.read? payload = some x → m.count x ≤ 0x10000000000000000)
    (h : (ofSpace kind m empty p write).start payload = .ok acc) :
    ∃ vs, (ofSpace kind m empty p write).Visits payload acc vs ∧ Apart vs := by
  obtain ⟨x, hx, rfl⟩ := start_ofWalker h
  refine exists_apart_of_walks hp Codec.lossless_word hx (m.keeps_reference x) ?_
    (Space.walks (hcount x hx) x) rfl
  intro a b ha hb
  exact eq_of_same_write Codec.lossless_word rfl rfl (ha.trans hb.symm)

theorem exists_apart_of_objects (hp : p.Lossless) {e : Mutation.ObjectEncoding P}
    (hfits : ∀ x, p.read? payload = some x → ∀ members, e.decode? x = some members →
      ∀ l ∈ Mutation.leaves members, l.Fits)
    (h : (ofObjects kind e empty p).start payload = .ok acc) :
    ∃ vs, (ofObjects kind e empty p).Visits payload acc vs ∧ Apart vs := by
  obtain ⟨x, hx, rfl⟩ := start_ofWalker h
  obtain ⟨rs, hwalk⟩ := e.exists_walks (hfits x hx) _
  refine exists_apart_of_walks hp Mutation.Cursor.lossless_listCodec hx (e.keeps_floatFree x) ?_
    hwalk ⟨rfl, ?_⟩
  · rintro a b ⟨ha, hafree⟩ ⟨hb, hbfree⟩
    exact eq_of_same_write Mutation.Cursor.lossless_listCodec
      (Mutation.Cursor.floatFree_listCodec hafree) (Mutation.Cursor.floatFree_listCodec hbfree)
      (ha.trans hb.symm)
  · intro c hc
    obtain ⟨l, -, rfl⟩ := Option.map_eq_some_iff.1 (Option.mem_toList.1 hc)
    exact Mutation.Cursor.floatFree_codec _

end Kinds

/-- What a kind is made of comes to an end on every payload that it accepts. -/
theorem exists_apart_of_madeOf {n : Nat} {beyond : Violation} {reads : Json → Prop} {d g : Device}
    (h : Device.MadeOf n beyond payload reads t d g) (hn : n ≤ 0x10000000000000000)
    (hstart : t.start payload = .ok acc) : ∃ vs, t.Visits payload acc vs ∧ Apart vs := by
  cases h with
  | space lossless bounded _ =>
      exact exists_apart_of_space lossless (fun x hx => Nat.le_trans (bounded x hx) hn) hstart
  | objects lossless bounded =>
      exact exists_apart_of_objects lossless (fun x hx => (bounded x hx).fits hn) hstart

/-- Every transformer comes to an end on every payload that it accepts. -/
theorem exists_visits {exceptions : List StoreException} {k : TransformerKind}
    (hexceptions : exceptions.length ≤ 0x10000000000000000)
    (hextent : extent payload ≤ 0x10000000000000000)
    (h : (make exceptions k).start payload = .ok acc) :
    ∃ vs, (make exceptions k).Visits payload acc vs ∧ Apart vs :=
  exists_apart_of_madeOf (Device.madeOf_make .overflow k hexceptions hextent (by decide))
    (Nat.le_refl _) h

end Transformer

end Faultline
