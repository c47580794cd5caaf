import Faultline.Proofs.Plan
import Faultline.Proofs.Trail
import Faultline.Report.Basic
import Mathlib.Data.List.Nodup

/-!
# What a report shows

The document of a report shows every call on record once, with what is known of it (`ShownBy`).
The findings are put down by the text of the trail that they name; as these texts tell trails
apart and an analyzer names the call that it looks at, every finding is on the list of one call.
After any sequence of records, with the report rendered and written in between, the calls come in
the order of the first records, with the latest of them and the latest completion
(`document_complete`).
-/

namespace Faultline

namespace Analyzer

/-- An analyzer only has something to say about the call that it looks at. -/
def NamesObserved (a : Analyzer) : Prop :=
  ∀ earlier r found, a.observe earlier r = .ok found → ∀ w ∈ found, w.trail = r.trail

theorem namesObserved_redundantRpc (lenient : Bool) : (redundantRpc lenient).NamesObserved := by
  intro earlier r found h w hw
  simp only [redundantRpc] at h
  split at h
  · cases h
    cases hw
  · split at h
    · cases h
    · split at h <;> cases h
      · rw [List.mem_singleton.1 hw]
      · cases hw

theorem namesObserved_unimplementedFailures : unimplementedFailures.NamesObserved := by
  intro earlier r found h w hw
  simp only [unimplementedFailures] at h
  split at h <;> cases h
  · rw [List.mem_singleton.1 hw]
  · cases hw

theorem namesObserved_responseBecomesRequest : responseBecomesRequest.NamesObserved := by
  intro earlier r found h w hw
  cases h
  obtain ⟨p, -, hp⟩ := List.mem_filterMap.1 hw
  obtain ⟨value, -, hp⟩ := Option.bind_eq_some_iff.1 hp
  split at hp
  · obtain ⟨common, -, hp⟩ := Option.bind_eq_some_iff.1 hp
    cases hp
    rfl
  · cases hp

theorem namesObserved_singleMutations : singleMutations.NamesObserved := by
  intro earlier r found h w hw
  cases h
  obtain ⟨p, -, hp⟩ := List.mem_filterMap.1 hw
  split at hp
  · obtain ⟨common, -, hp⟩ := Option.bind_eq_some_iff.1 hp
    cases hp
    rfl
  · cases hp

theorem namesObserved_of_mem_all {lenient : Bool} {a : Analyzer} (ha : a ∈ all lenient) :
    a.NamesObserved := by
  simp only [all, List.mem_cons, List.not_mem_nil, or_false] at ha
  rcases ha with rfl | rfl | rfl | rfl
  · exact namesObserved_redundantRpc lenient
  · exact namesObserved_unimplementedFailures
  · exact namesObserved_responseBecomesRequest
  · exact namesObserved_singleMutations

theorem NamesObserved.observeFrom {a : Analyzer} (ha : a.NamesObserved) {rs : List Rpc}
    {earlier : List Rpc} {found : List Warning} (h : a.observeFrom earlier rs = .ok found) :
    ∀ w ∈ found, ∃ r ∈ rs, w.trail = r.trail := by
  induction rs generalizing earlier found with
  | nil =>
      cases h
      exact List.forall_mem_nil _
  | cons r rs ih =>
      obtain ⟨here, hhere, h⟩ := bind_eq_ok.1 h
      obtain ⟨rest, hrest, h⟩ := bind_eq_ok.1 h
      cases h
      intro w hw
      rcases List.mem_append.1 hw with hw | hw
      · exact ⟨r, List.mem_cons_self, ha earlier r here hhere w hw⟩
      · obtain ⟨r', hr', htrail⟩ := ih hrest w hw
        exact ⟨r', List.mem_cons_of_mem r hr', htrail⟩

theorem exists_of_mem_mapM {α β ε : Type} {f : α → Except ε β} {as : List α} {bs : List β}
    (h : as.mapM f = .ok bs) : ∀ b ∈ bs, ∃ a ∈ as, f a = .ok b := by
  induction as generalizing bs with
  | nil =>
      cases h
      exact List.forall_mem_nil _
  | cons a as ih =>
      rw [List.mapM_cons] at h
      obtain ⟨b, hb, h⟩ := bind_eq_ok.1 h
      obtain ⟨bs', hbs, h⟩ := bind_eq_ok.1 h
      cases h
      refine List.forall_mem_cons.2 ⟨⟨a, List.mem_cons_self, hb⟩, fun b' hb' => ?_⟩
      obtain ⟨a', ha', hf⟩ := ih hbs b' hb'
      exact ⟨a', List.mem_cons_of_mem a ha', hf⟩

/-- What several analyzers find is about the calls that they went through. -/
theorem exists_of_mem_runAll {as : List Analyzer} (has : ∀ a ∈ as, a.NamesObserved)
    {passed : Bool} {rs : List Rpc} {found : List Warning} (h : runAll as passed rs = .ok found) :
    ∀ w ∈ found, ∃ r ∈ rs, w.trail = r.trail := by
  obtain ⟨lists, hlists, h⟩ := bind_eq_ok.1 h
  cases h
  intro w hw
  obtain ⟨list, hlist, hw⟩ := List.mem_flatten.1 hw
  obtain ⟨a, ha, hrun⟩ := exists_of_mem_mapM hlists list hlist
  split at hrun
  · next warnings hwarnings =>
    cases hrun
    split at hw
    · exact (has a ha).observeFrom hwarnings w hw
    · cases hw
  · cases hrun

end Analyzer

namespace Report

theorem trails_rpcs (r : Report) : r.rpcs.map (·.trail) = r.calls.keys := by
  conv_rhs => rw [Ledger.keys, ← List.zipIdx_map_fst 0 r.calls.entries, List.map_map]
  rw [rpcs, List.map_map]
  rfl

theorem fault_of_mem_rpcs {r : Report} {rpc : Rpc} (h : rpc ∈ r.rpcs) :
    rpc.fault = r.faults.get? rpc.trail := by
  obtain ⟨_, -, rfl⟩ := List.mem_map.1 h
  rfl

/-- The record and the completion of a call that is shown. -/
theorem known_of_mem_rpcs {r : Report} (hr : r.calls.Distinct) {rpc : Rpc} (h : rpc ∈ r.rpcs) :
    r.calls.get? rpc.trail = some rpc.invocation ∧
      r.completions.get? rpc.trail = rpc.response := by
  obtain ⟨⟨⟨t, invocation⟩, position⟩, hmem, rfl⟩ := List.mem_map.1 h
  exact ⟨(Ledger.get?_eq_some_iff hr).2 (List.fst_mem_of_mem_zipIdx hmem), rfl⟩

/-! ### What becomes of a report -/

/-- What is put on record, and what is done with the report in between. -/
inductive Event where
  | call (t : Trail) (record : Json)
  | completion (t : Trail) (record : Json)
  | faults (fs : List (Trail × Json))
  | cached (t : Trail)
  | render (id createdAt : String)
  | write (id createdAt : String) (iteration : UInt32) (failed : Bool)

namespace Event

def call? : Event → Option (Trail × Json)
  | call t record => some (t, record)
  | _ => none

def completion? : Event → Option (Trail × Json)
  | completion t record => some (t, record)
  | _ => none

end Event

def note (r : Report) : Event → Report
  | .call t record => r.recordCall t record
  | .completion t record => r.recordCompletion t record
  | .faults fs => r.addFaults fs
  | .cached t => r.recordCached t
  | .render id createdAt =>
    match r.toJson id createdAt with
    | .ok (_, r) => r
    | .error _ => r
  | .write id createdAt iteration failed => (r.write id createdAt iteration failed).2

def noteAll (r : Report) (events : List Event) : Report :=
  events.foldl note r

/-- The parts of a document that came out. -/
theorem toJson_eq_ok_iff {r r' : Report} {id createdAt : String} {document : Json} :
    r.toJson id createdAt = .ok (document, r') ↔ ∃ found,
      r.findings r.passed r.lenient = .ok found ∧ r' = { r with warnings := found } ∧
        document = r'.document id createdAt := by
  simp only [toJson, analyzed, bind_eq_ok]
  constructor
  · rintro ⟨_, ⟨found, hfound, hr⟩, h⟩
    cases hr
    cases h
    exact ⟨found, hfound, rfl, rfl⟩
  · rintro ⟨found, hfound, rfl, rfl⟩
    exact ⟨_, ⟨found, hfound, rfl⟩, rfl⟩

/-- Rendering and writing leave what is on record alone. -/
theorem kept_of_toJson {r r' : Report} {id createdAt : String} {document : Json}
    (h : r.toJson id createdAt = .ok (document, r')) :
    r'.calls = r.calls ∧ r'.completions = r.completions := by
  obtain ⟨found, -, rfl, -⟩ := toJson_eq_ok_iff.1 h
  exact ⟨rfl, rfl⟩

theorem kept_write (r : Report) (id createdAt : String) (iteration : UInt32) (failed : Bool) :
    (r.write id createdAt iteration failed).2.calls = r.calls ∧
      (r.write id createdAt iteration failed).2.completions = r.completions := by
  unfold write
  split
  · exact ⟨rfl, rfl⟩
  · simp only
    split
    · next document r' h =>
      have hkept := kept_of_toJson h
      exact hkept
    · exact ⟨rfl, rfl⟩

theorem kept_note (r : Report) (e : Event) :
    (r.note e).calls = r.calls.putAll e.call?.toList ∧
      (r.note e).completions = r.completions.putAll e.completion?.toList := by
  cases e with
  | call | completion | faults | cached => exact ⟨rfl, rfl⟩
  | render id createdAt =>
      simp only [note]
      split
      · next h => exact kept_of_toJson h
      · exact ⟨rfl, rfl⟩
  | write id createdAt iteration failed => exact r.kept_write id createdAt iteration failed

/-- The records of a report are those that were put in, one after the other. -/
theorem kept_noteAll (lenient : Bool) (events : List Event) :
    ((empty lenient).noteAll events).calls =
        Ledger.empty.putAll (events.filterMap Event.call?) ∧
      ((empty lenient).noteAll events).completions =
        Ledger.empty.putAll (events.filterMap Event.completion?) := by
  induction events using List.reverseRecOn with
  | nil => exact ⟨rfl, rfl⟩
  | append_singleton events e ih =>
      obtain ⟨hcalls, hcompletions⟩ := kept_note ((empty lenient).noteAll events) e
      rw [noteAll, List.foldl_append]
      refine ⟨hcalls.trans ?_, hcompletions.trans ?_⟩
      · rw [ih.1, List.filterMap_append]
        cases h : e.call? <;> simp [h, Ledger.putAll]
      · rw [ih.2, List.filterMap_append]
        cases h : e.completion? <;> simp [h, Ledger.putAll]

/-! ### What the document shows -/

theorem get?_document (r : Report) (id createdAt : String) :
    (r.document id createdAt).get? "rpcs" = some (.arr (r.rpcs.map r.rpcJson)) := by
  simp [document, Json.object, Json.get?, Entries.ofPairs, Entries.find?_insert]

/-- The members of a call that is shown. -/
theorem get?_rpcJson (r : Report) (rpc : Rpc) :
    (r.rpcJson rpc).get? "generated_id" = some (.str (Nat.repr (rpc.position + 1))) ∧
    (r.rpcJson rpc).get? "dei" = some (.str rpc.trail.text) ∧
    (r.rpcJson rpc).get? "request" = some rpc.invocation ∧
    (r.rpcJson rpc).get? "response" = some (rpc.response.getD .emptyObject) ∧
    (r.rpcJson rpc).get? "fault" = some (rpc.fault.getD .emptyObject) ∧
    (r.rpcJson rpc).get? "warnings" =
      some (.arr ((r.warnings.filter fun w => w.trail == rpc.trail).map warningJson)) := by
  simp [rpcJson, Json.object, Json.get?, Entries.ofPairs, Entries.find?_insert]

theorem dei_warningJson (w : Warning) : (warningJson w).get? "dei" = some (.str w.trail.text) := by
  simp [warningJson, Json.object, Json.get?, Entries.ofPairs, Entries.find?_insert]

/-- The text of the trail of each call that is shown. -/
theorem map_dei_rpcJson (r : Report) :
    (r.rpcs.map r.rpcJson).map (·.get? "dei") = r.calls.keys.map fun t => some (.str t.text) := by
  rw [List.map_map, ← trails_rpcs, List.map_map]
  exact List.map_congr_left fun rpc _ => (r.get?_rpcJson rpc).2.1

/-- A finding is on the list of the `i`-th call that is shown. -/
def Lists (shown : List Json) (w : Warning) (i : Nat) : Prop :=
  ∃ rpc found, shown[i]? = some rpc ∧ rpc.get? "warnings" = some (.arr found) ∧
    warningJson w ∈ found

/-- A report with its findings is shown by a list of calls. -/
structure ShownBy (r : Report) (findings : List Warning) (shown : List Json) : Prop where
  /-- The calls come in the order in which they stand on record, each once. -/
  order : shown.map (·.get? "dei") = r.calls.keys.map fun t => some (.str t.text)
  once : (shown.map (·.get? "dei")).Nodup
  /-- A call has its record, its completion and its fault. -/
  known : ∀ rpc ∈ shown, ∀ t : Trail, rpc.get? "dei" = some (.str t.text) →
    rpc.get? "request" = r.calls.get? t ∧
    rpc.get? "response" = some ((r.completions.get? t).getD .emptyObject) ∧
    rpc.get? "fault" = some ((r.faults.get? t).getD .emptyObject)
  /-- The findings with the text of its trail are on its list, in their order. -/
  warned : ∀ rpc ∈ shown, ∀ text, rpc.get? "dei" = some (.str text) →
    rpc.get? "warnings" =
      some (.arr ((findings.filter fun w => w.trail.text = text).map warningJson))
  /-- A finding is on one list, that of the call with the trail that it names. -/
  listed : ∀ w ∈ findings, ∃ i, (shown.map (·.get? "dei"))[i]? = some (some (.str w.trail.text)) ∧
    ∀ j, Lists shown w j ↔ j = i

/-- What is shown after some events by a report with its findings. -/
structure Complete (events : List Event) (findings : List Warning) (shown : List Json) :
    Prop where
  /-- The calls come in the order of their first records, each once. -/
  order : shown.map (·.get? "dei") =
    ((events.filterMap Event.call?).map (·.1)).eraseDups.map fun t => some (.str t.text)
  once : (shown.map (·.get? "dei")).Nodup
  /-- A call has its latest record and its latest completion. -/
  latest : ∀ rpc ∈ shown, ∀ t : Trail, rpc.get? "dei" = some (.str t.text) →
    rpc.get? "request" = Ledger.latest? t (events.filterMap Event.call?) ∧
    rpc.get? "response" =
      some ((Ledger.latest? t (events.filterMap Event.completion?)).getD .emptyObject)
  /-- The findings with the text of its trail are on its list, in their order. -/
  warned : ∀ rpc ∈ shown, ∀ text, rpc.get? "dei" = some (.str text) →
    rpc.get? "warnings" =
      some (.arr ((findings.filter fun w => w.trail.text = text).map warningJson))
  /-- A finding is on one list, that of the call with the trail that it names. -/
  listed : ∀ w ∈ findings, ∃ i, (shown.map (·.get? "dei"))[i]? = some (some (.str w.trail.text)) ∧
    ∀ j, Lists shown w j ↔ j = i

section

variable {r : Report}

theorem text_beq_iff (w : Warning) (t : Trail) : (w.trail == t) = decide (w.trail.text = t.text) :=
  Bool.eq_iff_iff.2 (by rw [beq_iff_eq, decide_eq_true_iff, Trail.text_inj])

/-- What is shown under the text of a trail is the call with this trail. -/
theorem exists_of_dei {shown : Json} (h : shown ∈ r.rpcs.map r.rpcJson) {text : String}
    (htext : shown.get? "dei" = some (.str text)) :
    ∃ rpc ∈ r.rpcs, rpc.trail.text = text ∧ r.rpcJson rpc = shown := by
  obtain ⟨rpc, hrpc, rfl⟩ := List.mem_map.1 h
  rw [(r.get?_rpcJson rpc).2.1] at htext
  cases htext
  exact ⟨rpc, hrpc, rfl, rfl⟩

/-- A finding is put down where the trail that it names stands among the calls. -/
theorem lists_iff {w : Warning} (hw : w ∈ r.warnings) (i : Nat) :
    Lists (r.rpcs.map r.rpcJson) w i ↔ r.calls.keys[i]? = some w.trail := by
  rw [← trails_rpcs, List.getElem?_map, Option.map_eq_some_iff]
  constructor
  · rintro ⟨_, found, hshown, hfound, hmem⟩
    rw [List.getElem?_map] at hshown
    obtain ⟨rpc, hrpc, rfl⟩ := Option.map_eq_some_iff.1 hshown
    rw [(r.get?_rpcJson rpc).2.2.2.2.2] at hfound
    cases hfound
    obtain ⟨w', hw', hsame⟩ := List.mem_map.1 hmem
    have htext := congrArg (·.get? "dei") hsame
    simp only [dei_warningJson, Option.some.injEq, Json.str.injEq, Trail.text_inj] at htext
    have htrail : w'.trail = rpc.trail := eq_of_beq (List.mem_filter.1 hw').2
    exact ⟨rpc, hrpc, htrail.symm.trans htext⟩
  · rintro ⟨rpc, hrpc, htrail⟩
    refine ⟨r.rpcJson rpc, _, ?_, (r.get?_rpcJson rpc).2.2.2.2.2, ?_⟩
    · rw [List.getElem?_map, hrpc]
      rfl
    · exact List.mem_map.2 ⟨w, List.mem_filter.2 ⟨hw, beq_iff_eq.2 htrail.symm⟩, rfl⟩

/-- The calls of a report, with findings that its analyzers made of them. -/
theorem shownBy_rpcs (hdistinct : r.calls.Distinct)
    (hwarnings : ∀ w ∈ r.warnings, ∃ rpc ∈ r.rpcs, w.trail = rpc.trail) :
    r.ShownBy r.warnings (r.rpcs.map r.rpcJson) where
  order := map_dei_rpcJson r
  once := by
    rw [map_dei_rpcJson]
    refine List.Nodup.map (fun t u htext => ?_) hdistinct
    simpa [Trail.text_inj] using htext
  known shown hshown t ht := by
    obtain ⟨rpc, hrpc, htext, rfl⟩ := exists_of_dei hshown ht
    obtain rfl := Trail.text_inj.1 htext
    obtain ⟨hrecord, hcompletion⟩ := known_of_mem_rpcs hdistinct hrpc
    obtain ⟨-, -, hrequest, hresponse, hfault, -⟩ := r.get?_rpcJson rpc
    rw [hrequest, hresponse, hfault, hrecord, hcompletion, fault_of_mem_rpcs hrpc]
    exact ⟨rfl, rfl, rfl⟩
  warned shown hshown text ht := by
    obtain ⟨rpc, hrpc, rfl, rfl⟩ := exists_of_dei hshown ht
    rw [(r.get?_rpcJson rpc).2.2.2.2.2]
    simp only [text_beq_iff]
  listed w hw := by
    obtain ⟨rpc, hrpc, htrail⟩ := hwarnings w hw
    have hmem : w.trail ∈ r.calls.keys := by
      rw [← trails_rpcs, htrail]
      exact List.mem_map_of_mem hrpc
    obtain ⟨i, hi, hget⟩ := List.mem_iff_getElem.1 hmem
    have hplace : r.calls.keys[i]? = some w.trail := List.getElem?_eq_some_iff.2 ⟨hi, hget⟩
    refine ⟨i, ?_, fun j => (lists_iff hw j).trans ⟨fun hj => ?_, fun hj => hj ▸ hplace⟩⟩
    · rw [map_dei_rpcJson, List.getElem?_map, hplace]
      rfl
    · exact ((List.getElem?_inj hi hdistinct).1 (hplace.trans hj.symm)).symm

/-- A document that comes out shows the report that it was made from. -/
theorem exists_shownBy {findings : List Warning} (hdistinct : r.calls.Distinct)
    (hfound : r.findings r.passed r.lenient = .ok findings) (id createdAt : String) :
    ∃ shown, ({ r with warnings := findings }.document id createdAt).get? "rpcs" =
      some (.arr shown) ∧ r.ShownBy findings shown := by
  have hwarnings := Analyzer.exists_of_mem_runAll
    (fun a ha => Analyzer.namesObserved_of_mem_all ha) hfound
  obtain ⟨order, once, known, warned, listed⟩ :=
    shownBy_rpcs (r := { r with warnings := findings }) hdistinct hwarnings
  exact ⟨_, get?_document _ id createdAt, order, once, known, warned, listed⟩

end

/-- A report that comes out shows every call once, in the order of the first records, with its
latest record and completion, and every finding on the list of the call that it names. -/
theorem document_complete (lenient : Bool) (events : List Event) (id createdAt : String)
    {document : Json} {r : Report}
    (h : ((empty lenient).noteAll events).toJson id createdAt = .ok (document, r)) :
    ∃ shown, document.get? "rpcs" = some (.arr shown) ∧ Complete events r.warnings shown := by
  obtain ⟨found, hfound, rfl, rfl⟩ := toJson_eq_ok_iff.1 h
  obtain ⟨hcalls, hcompletions⟩ := kept_noteAll lenient events
  have hdistinct : ((empty lenient).noteAll events).calls.Distinct :=
    hcalls ▸ Ledger.distinct_putAll Ledger.distinct_empty _
  obtain ⟨shown, hshown, order, once, known, warned, listed⟩ :=
    exists_shownBy hdistinct hfound id createdAt
  refine ⟨shown, hshown, ?_, once, fun rpc hrpc t ht => ?_, warned, listed⟩
  · rw [order, hcalls, Ledger.keys_putAll]
  · obtain ⟨hrequest, hresponse, -⟩ := known rpc hrpc t ht
    rw [hrequest, hresponse, hcalls, hcompletions, Ledger.get?_putAll_empty,
      Ledger.get?_putAll_empty]
    exact ⟨rfl, rfl⟩

/-- Two calls with the same answer, the first of which is recorded once more in between. -/
def repeatedCall : List Event :=
  let record : Json := .object [("module", .str "Svc"), ("method", .str "Get")]
  let answer : Json := .object [("return_value", .str "v")]
  [.call [("k", 1)] .null, .completion [("k", 1)] answer, .render "" "", .call [("k", 2)] record,
    .call [("k", 1)] record, .completion [("k", 2)] answer, .write "" "" 1 false]

theorem document_complete_repeatedCall :
    ∃ document r shown,
      ((empty false).noteAll repeatedCall).toJson "" "" = .ok (document, r) ∧
      r.warnings.map (·.trail) = [[("k", 2)]] ∧
      document.get? "rpcs" = some (.arr shown) ∧ Complete repeatedCall r.warnings shown := by
  obtain ⟨document, r, h, hwarnings⟩ : ∃ document r,
      ((empty false).noteAll repeatedCall).toJson "" "" = .ok (document, r) ∧
        r.warnings.map (·.trail) = [[("k", 2)]] := ⟨_, _, rfl, by decide +kernel⟩
  obtain ⟨shown, hshown, hcomplete⟩ := document_complete false repeatedCall "" "" h
  exact ⟨document, r, shown, h, hwarnings, hshown, hcomplete⟩

end Report

end Faultline
