import Faultline.Counterexample
import Faultline.Proofs.Json.RoundTrip
import Faultline.Proofs.Trail

/-!
# Counterexamples through their documents

A fault is read back from the object that it is written as, also when the object names a call as
well.  So the counterexample of a plan survives its document (`ofJson_toJson`), and it has for
every trail the fault that the plan has (`fault_ofPlan`).
-/

namespace Faultline

/-! ### Faults -/

namespace ForcedException

theorem ofJson?_toJson (e : ForcedException) : ofJson? e.toJson = some e := by
  obtain ⟨name, metadata⟩ := e
  simp [ofJson?, toJson, Json.object, Entries.ofPairs, Entries.find?_insert, Record.ofJson?,
    Record.required, Record.defaulted, Record.get?, Json.str?, Json.obj?, Table.ofList_toList]

end ForcedException

namespace ByzantineFault

theorem ofJson?_toJson (b : ByzantineFault) : ofJson? b.toJson = some b := by
  simp [ofJson?, toJson, Json.object, Entries.ofPairs, Entries.find?_insert, Record.ofJson?,
    Record.required, Record.defaulted, Record.get?, Json.str?]

end ByzantineFault

namespace TransformerFault

theorem ofJson?_toJson (t : TransformerFault) : ofJson? t.toJson = some t := by
  simp [ofJson?, toJson, Json.object, Entries.ofPairs, Entries.find?_insert, Record.ofJson?,
    Record.required, Record.defaulted, Record.get?, TransformerKind.ofJson?,
    TransformerKind.toJson, Json.word?, TransformerKind.ofName?_name]

end TransformerFault

namespace Fault

theorem ofBody?_body (f : Fault) : ofBody? f.kind f.body = some f := by
  cases f with
  | exception e => simp [ofBody?, kind, body, ForcedException.ofJson?_toJson]
  | failure metadata => simp [ofBody?, kind, body]
  | byzantine b => simp [ofBody?, kind, body, ByzantineFault.ofJson?_toJson]
  | transformer t => simp [ofBody?, kind, body, TransformerFault.ofJson?_toJson]

/-- The fault in an object that has its kind and no other kind. -/
theorem ofObject_of_get? {j : Json} (f : Fault)
    (h : ∀ k ∈ kinds, j.get? k = if k = f.kind then some f.body else none) :
    ofObject j = .ok (some f) := by
  have hfind : kinds.findSome? (fun k => (j.get? k).map (k, ·)) = some (f.kind, f.body) := by
    simp only [kinds, List.mem_cons, List.not_mem_nil, or_false, forall_eq_or_imp, forall_eq] at h
    obtain ⟨h₁, h₂, h₃, h₄⟩ := h
    simp only [kinds, List.findSome?_cons, h₁, h₂, h₃, h₄]
    cases f <;> simp [kind]
  rw [ofObject, hfind]
  simp only [ofBody?_body]

/-- The record of a failure has the fault beside the name of its call. -/
theorem ofObject_put (f : Fault) (v : Json) :
    ofObject (f.toObject.put Failure.indexName v) = .ok (some f) := by
  apply ofObject_of_get? f
  intro k hk
  have hne : k ≠ Failure.indexName := by
    rintro rfl
    exact absurd hk (by decide)
  rw [toObject, Json.get?_put_obj, if_neg hne]
  rfl

end Fault

/-! ### Failures -/

theorem Failure.ofJson_ofFault (t : Trail) (f : Fault) :
    Failure.ofJson (Failure.ofFault t f).record = .ok (Failure.ofFault t f) := by
  simp [Failure.ofJson, Failure.ofFault, Fault.toObject, Json.str?, Trail.parse?_text]

/-! ### Counterexamples -/

/-- Every fault is plain, and nests below the limit where it stands in a counterexample: in its
record, in the list of the failures, in the document. -/
structure Plan.Portable (p : Plan) : Prop where
  plain : ∀ e ∈ p.entries, e.2.toObject.Plain
  depth : ∀ e ∈ p.entries, e.2.toObject.depth + 2 < Document.nestingLimit

namespace Counterexample

/-- The failures as they are written. -/
def document (c : Counterexample) : Json :=
  .object [("failures", .arr (c.failures.map (·.record)))]

theorem document_eq (c : Counterexample) :
    c.document = .obj [("failures", .arr (c.failures.map (·.record)))] := rfl

theorem plain_put {f : Fault} (h : f.toObject.Plain) (k s : String) :
    (f.toObject.put k (.str s)).Plain := by
  rw [Fault.toObject, Json.plain_obj] at h
  rw [Fault.toObject, Json.put, Json.plain_obj]
  refine ⟨Entries.sorted_insert h.1 k _, ?_⟩
  intro m hm
  rcases Entries.mem_insert hm with rfl | hm
  · exact Json.plain_str s
  · exact h.2 m hm

theorem depth_put (f : Fault) (k s : String) :
    (f.toObject.put k (.str s)).depth ≤ f.toObject.depth := by
  rw [Fault.toObject, Json.put, Json.depth, Json.depth, Nat.add_le_add_iff_right,
    Json.membersDepth_le]
  intro m hm
  rcases Entries.mem_insert hm with rfl | hm
  · exact Nat.zero_le _
  · exact Json.membersDepth_le.1 (Nat.le_refl _) m hm

theorem plain_document {p : Plan} (h : ∀ e ∈ p.entries, e.2.toObject.Plain) :
    (ofPlan p).document.Plain := by
  rw [document_eq, Json.plain_obj]
  refine ⟨List.pairwise_singleton _ _, ?_⟩
  intro m hm
  obtain rfl := List.mem_singleton.1 hm
  rw [Json.plain_arr]
  intro j hj
  obtain ⟨c, hc, rfl⟩ := List.mem_map.1 hj
  obtain ⟨e, he, rfl⟩ := List.mem_map.1 hc
  exact plain_put (h e he) _ _

theorem depth_document {p : Plan} (h : p.Portable) :
    (ofPlan p).document.depth < Document.nestingLimit := by
  have hitems :
      Json.itemsDepth ((ofPlan p).failures.map (·.record)) ≤ Document.nestingLimit - 3 := by
    rw [Json.itemsDepth_le]
    intro j hj
    obtain ⟨c, hc, rfl⟩ := List.mem_map.1 hj
    obtain ⟨e, he, rfl⟩ := List.mem_map.1 hc
    have hdepth := h.depth e he
    have hput := depth_put e.2 Failure.indexName e.1.text
    simp only [Failure.ofFault]
    omega
  rw [document_eq]
  simp only [Json.depth, Json.membersDepth, Document.nestingLimit] at hitems ⊢
  omega

theorem mapM_ofJson (es : List (Trail × Fault)) :
    ((es.map fun e => Failure.ofFault e.1 e.2).map (·.record)).mapM Failure.ofJson =
      .ok (es.map fun e => Failure.ofFault e.1 e.2) := by
  induction es with
  | nil => rfl
  | cons e es ih =>
      rw [List.map_cons, List.map_cons, List.mapM_cons, ih, Failure.ofJson_ofFault]
      rfl

/-- A counterexample is read back from its document. -/
theorem ofJson_toJson {p : Plan} (h : p.Portable) : ofJson (ofPlan p).toJson = .ok (ofPlan p) := by
  have hparse : Json.parse? (ofPlan p).document.compact = some (ofPlan p).document :=
    Json.parse?_compact (plain_document h.plain) (depth_document h)
  have hinner : inner (ofPlan p).toJson = .ok (ofPlan p).document := by
    have hget : (ofPlan p).toJson.get? "TestExecution" =
        some (.str (ofPlan p).document.compact) := rfl
    simp only [inner, hget, hparse]
  have hfailures : ((ofPlan p).document.get? "failures").bind Json.arr? =
      some ((ofPlan p).failures.map (·.record)) := rfl
  have hread : ((ofPlan p).failures.map (·.record)).mapM Failure.ofJson = .ok (ofPlan p).failures :=
    mapM_ofJson p.entries
  simp only [ofJson, hinner, bind, Except.bind, hfailures, hread]
  rfl

/-! ### Look-ups -/

/-- A question that the failures of a plan answer by their trails finds the fault of its trail. -/
theorem find?_failures (es : List (Trail × Fault)) {t : Trail} {q : Failure → Bool}
    (hq : ∀ u f, q (.ofFault u f) = decide (u = t)) :
    (es.map fun e => Failure.ofFault e.1 e.2).find? q =
      (Ledger.find? t es).map (Failure.ofFault t) := by
  induction es with
  | nil => rfl
  | cons e es ih =>
      obtain ⟨u, f⟩ := e
      rw [List.map_cons, List.find?_cons, ih, Ledger.find?, hq]
      by_cases h : t = u
      · simp [h]
      · simp [h, Ne.symm h]

theorem find?_trail (p : Plan) (t : Trail) :
    (ofPlan p).failures.find? (fun f => f.trail == some t) =
      (p.get? t).map (Failure.ofFault t) :=
  find?_failures p.entries fun u f => Bool.eq_iff_iff.2 (by simp [Failure.ofFault])

theorem find?_ofPlan (p : Plan) (t : Trail) :
    (ofPlan p).find? t.text = (p.get? t).map (Failure.ofFault t) := by
  have hindex : (ofPlan p).failures.find? (fun f => f.index == t.text) =
      (p.get? t).map (Failure.ofFault t) :=
    find?_failures p.entries fun u f =>
      Bool.eq_iff_iff.2 (by simp [Failure.ofFault, Trail.text_inj])
  simp only [find?, hindex, Trail.parse?_text]
  cases hget : p.get? t with
  | some f => rfl
  | none => exact (find?_trail p t).trans (by rw [hget])

/-- The counterexample of a plan has its faults. -/
theorem fault_ofPlan (p : Plan) (t : Trail) : (ofPlan p).fault t.text = .ok (p.get? t) := by
  rw [fault, record?, find?_ofPlan]
  cases p.get? t with
  | none => rfl
  | some f => exact Fault.ofObject_put f _

end Counterexample

end Faultline
