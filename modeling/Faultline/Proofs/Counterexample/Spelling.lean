import Faultline.Index
import Faultline.Proofs.Counterexample
import Faultline.Proofs.Json.Limit
import Mathlib

/-!
# Captured faults under any spelling

A call is looked up in a counterexample by a text, which need not be the text that was captured:
every text that is read as the trail of the call finds the failure of that trail
(`fault_ofPlan_of_parse?`).  The document of a counterexample is read back exactly when its faults
nest below the limit there (`ofJson_toJson_iff`), and then as the same failures; a fault that nests
deeper makes the document unreadable, and is never taken for another one.
-/

namespace Faultline

namespace Counterexample

/-! ### The document -/

/-- The name of its call nests a fault no deeper. -/
theorem depth_record (t : Trail) (f : Fault) :
    (Failure.ofFault t f).record.depth = f.toObject.depth := by
  have hne : f.kind ≠ Failure.indexName := by
    cases f <;> simp [Fault.kind, Failure.indexName]
  have hfind : Entries.find? f.kind
      (Entries.insert Failure.indexName (.str t.text) [(f.kind, f.body)]) = some f.body := by
    rw [Entries.find?_insert, if_neg hne]
    simp [Entries.find?]
  apply Nat.le_antisymm (depth_put f _ _)
  rw [Fault.toObject, Json.put, Json.depth, Json.depth, Nat.add_le_add_iff_right,
    Json.membersDepth_le]
  intro m hm
  obtain rfl := List.mem_singleton.1 hm
  exact Json.membersDepth_le.1 (Nat.le_refl _) _ (Entries.mem_of_find? hfind)

theorem depth_document_lt_iff {p : Plan} : (ofPlan p).document.depth < Document.nestingLimit ↔
    ∀ e ∈ p.entries, e.2.toObject.depth + 2 < Document.nestingLimit := by
  have hdepth : (ofPlan p).document.depth =
      Json.itemsDepth ((ofPlan p).failures.map (·.record)) + 2 := by
    rw [document_eq]
    simp [Json.depth, Json.membersDepth]
  have hitems : Json.itemsDepth ((ofPlan p).failures.map (·.record)) ≤ 125 ↔
      ∀ e ∈ p.entries, e.2.toObject.depth ≤ 125 := by
    rw [Json.itemsDepth_le]
    simp only [ofPlan, List.map_map, List.forall_mem_map, Function.comp_apply, depth_record]
  rw [hdepth, Document.nestingLimit]
  constructor
  · intro h e he
    have := hitems.1 (by omega) e he
    omega
  · intro h
    have := hitems.2 fun e he => by have := h e he; omega
    omega

/-- The counterexample of plain faults is read back where they nest below the limit, and only
there. -/
theorem ofJson_toJson_iff {p : Plan} (h : ∀ e ∈ p.entries, e.2.toObject.Plain) :
    (∃ c, ofJson (ofPlan p).toJson = .ok c) ↔
      ∀ e ∈ p.entries, e.2.toObject.depth + 2 < Document.nestingLimit := by
  constructor
  · rintro ⟨c, hc⟩
    refine depth_document_lt_iff.1 ((Json.parse?_compact_iff (plain_document h)).1 ?_)
    have hget : (ofPlan p).toJson.get? "TestExecution" =
        some (.str (ofPlan p).document.compact) := rfl
    cases hparse : Json.parse? (ofPlan p).document.compact with
    | some j => rfl
    | none =>
        simp only [ofJson, inner, hget, hparse, bind, Except.bind] at hc
        cases hc
  · intro hdepth
    exact ⟨ofPlan p, ofJson_toJson ⟨h, hdepth⟩⟩

/-! ### Look-ups -/

/-- The text of the trail itself finds the same failure as any other text of it. -/
theorem find?_ofPlan_of_parse? (p : Plan) {s : String} {t : Trail} (h : Trail.parse? s = some t) :
    (ofPlan p).find? s = (p.get? t).map (Failure.ofFault t) := by
  by_cases hs : s = t.text
  · rw [hs, find?_ofPlan]
  · -- a failure with just this text would be one of the trail, and have the text of that
    have hindex : (ofPlan p).failures.find? (fun f => f.index == s) = none := by
      rw [List.find?_eq_none]
      intro f hf heq
      obtain ⟨e, -, rfl⟩ := List.mem_map.1 hf
      obtain rfl : e.1.text = s := by simpa [Failure.ofFault] using heq
      rw [Trail.parse?_text] at h
      exact hs (congrArg Trail.text (Option.some.inj h))
    simp only [find?, hindex, h, Option.bind_eq_bind, Option.bind_some]
    exact find?_trail p t

/-- The counterexample of a plan has its faults under every spelling of their trails. -/
theorem fault_ofPlan_of_parse? (p : Plan) {s : String} {t : Trail} (h : Trail.parse? s = some t) :
    (ofPlan p).fault s = .ok (p.get? t) := by
  rw [fault, record?, find?_ofPlan_of_parse? p h]
  cases p.get? t with
  | none => rfl
  | some f => exact Fault.ofObject_put f _

/-- The counterexample of an execution with plain faults is read back from its document exactly
when no fault nests too deep there.  It then has, for every text that is read as the index of a
call, the fault that the execution has for the call, and none where the execution has none. -/
theorem spelling_independent {e : Execution} (h : ∀ f ∈ e.faults.entries, f.2.toObject.Plain) :
    ((∃ c, ofJson (ofPlan e.faults).toJson = .ok c) ↔
      ∀ f ∈ e.faults.entries, f.2.toObject.depth + 2 < Document.nestingLimit) ∧
    ∀ c, ofJson (ofPlan e.faults).toJson = .ok c → ∀ (d read : Index) (s : String),
      Index.parse? s = some read → read.same d = true → c.fault s = .ok (e.fault? d.trail) := by
  refine ⟨ofJson_toJson_iff h, fun c hc d read s hs hsame => ?_⟩
  have hdepth := (ofJson_toJson_iff h).1 ⟨c, hc⟩
  obtain rfl : ofPlan e.faults = c := by
    rw [ofJson_toJson ⟨h, hdepth⟩] at hc
    exact Except.ok.inj hc
  obtain ⟨t, ht, rfl⟩ := Option.map_eq_some_iff.1 hs
  obtain rfl : t = d.trail := by simpa [Index.same] using hsame
  exact fault_ofPlan_of_parse? e.faults ht

/-- An execution with faults for the empty trail and for two nested calls. -/
def faultyExecution : Execution :=
  .ofPlan ⟨[([], .ofTransformer .objectText), ([("k", 1)], .failure .null),
    ([("k", 1), ("\"", 2)], .exception ⟨"E", .ofList [("cause", .null), ("sleep", .str "5")]⟩)]⟩

theorem spelling_independent_faultyExecution :
    (∀ f ∈ faultyExecution.faults.entries, f.2.toObject.Plain) ∧
    ∃ c, ofJson (ofPlan faultyExecution.faults).toJson = .ok c ∧
      c.fault " [[\"\\u006b\",1], [ \"\\u0022\",2 ]]" = .ok (some (.exception
        ⟨"E", .ofList [("cause", .null), ("sleep", .str "5")]⟩)) ∧
      c.fault "[[\"k\",1]]" = .ok (some (.failure .null)) ∧
      c.fault " " = .ok (some (.ofTransformer .objectText)) ∧
      c.fault "[[\"k\",2]]" = .ok none := by
  have hplain : ∀ f ∈ faultyExecution.faults.entries, f.2.toObject.Plain := by
    intro f hf
    simp only [faultyExecution, Execution.ofPlan, List.mem_cons, List.not_mem_nil, or_false] at hf
    rcases hf with rfl | rfl | rfl <;> exact ⟨by cbv, by cbv⟩
  have hfaithful := spelling_independent hplain
  obtain ⟨c, hc⟩ := hfaithful.1.2 (by decide)
  refine ⟨hplain, c, hc, ?_, ?_, ?_, ?_⟩
  · exact hfaithful.2 c hc (.ofTrail [("k", 1), ("\"", 2)]) _ _ (by cbv) (by cbv)
  · exact hfaithful.2 c hc (.ofTrail [("k", 1)]) _ _ (by cbv) (by cbv)
  · exact hfaithful.2 c hc .empty _ _ (by cbv) (by cbv)
  · exact hfaithful.2 c hc (.ofTrail [("k", 2)]) _ _ (by cbv) (by cbv)

end Counterexample

end Faultline
