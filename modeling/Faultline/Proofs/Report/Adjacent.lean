import Faultline.Proofs.Report
import Faultline.Proofs.Text.CommonRun

/-!
# Data that flows from one call to the next

Two analyzers put every earlier call beside the one that they look at, and compare the texts of
those whose positions are next to each other (`Compares`).  The calls of a report stand at their
positions, so only the call just before is compared with a call (`Compares.observeFrom_eq`), and
no call is found twice.  `marks_rpcs` says for which calls there is a finding.
-/

namespace Faultline

/-- Two texts with a common run of ten characters. -/
def Text.Share (s t : String) : Prop :=
  ∃ run : List Char, 10 ≤ run.length ∧ run <:+: s.toList ∧ run <:+: t.toList

namespace Rpc

/-- A call returned a value, the next one is to the same module, and the value and the arguments
share a long part. -/
def Feeds (p r : Rpc) : Prop :=
  ∃ response value, p.response = some response ∧ response.get? "return_value" = some value ∧
    p.module = r.module ∧ Text.Share r.argumentsText value.compact

/-- The next call is of the same method, with other arguments that share a long part. -/
def Varies (p r : Rpc) : Prop :=
  p.method = r.method ∧ p.arguments.same r.arguments = false ∧
    Text.Share r.argumentsText p.argumentsText

end Rpc

/-- Calls that stand at their positions and have trails of their own. -/
structure Placed (rs : List Rpc) : Prop where
  position : ∀ (i : Nat) (r : Rpc), rs[i]? = some r → r.position = i
  distinct : (rs.map (·.trail)).Nodup

/-- The call with some trail is at one place. -/
theorem Placed.unique {rs : List Rpc} (hrs : Placed rs) {i j : Nat} {r r' : Rpc}
    (hr : rs[i]? = some r) (hr' : rs[j]? = some r') (htrail : r.trail = r'.trail) :
    i = j ∧ r = r' := by
  have hsame : r = r' :=
    List.inj_on_of_nodup_map hrs.distinct (List.mem_of_getElem? hr) (List.mem_of_getElem? hr')
      htrail
  subst hsame
  exact ⟨(hrs.position i r hr).symm.trans (hrs.position j r hr'), rfl⟩

/-- The calls after the first one, as the second ones of the neighbours. -/
theorem Placed.distinct_zip {rs : List Rpc} (hrs : Placed rs) :
    ((rs.zip rs.tail).map (·.2.trail)).Nodup := by
  have hsnd : (rs.zip rs.tail).map Prod.snd = rs.tail := List.map_snd_zip (by simp)
  have hsub : (rs.tail.map (·.trail)).Sublist (rs.map (·.trail)) := (List.tail_sublist rs).map _
  rw [← hsnd, List.map_map] at hsub
  exact hrs.distinct.sublist hsub

namespace Analyzer

open Rpc (Feeds Varies)

theorem share_iff {s t : String} : Text.Share s t ↔ ∃ common, shared? s t = some common := by
  rw [Text.Share, ← Text.le_length_longestCommon_iff, shared?]
  generalize Text.longestCommon s t = common
  constructor
  · exact fun h => ⟨common, if_pos h⟩
  · rintro ⟨_, h⟩
    split at h
    · assumption
    · cases h

/-- An analyzer that asks `find` about each earlier call and the one that it looks at, which says
something of neighbours that are related. -/
structure Compares (a : Analyzer) (Related : Rpc → Rpc → Prop) (find : Rpc → Rpc → Option Warning) :
    Prop where
  counts : ∀ passed, a.countsWhen passed = true
  observe : ∀ earlier r, a.observe earlier r = .ok (earlier.filterMap (find · r))
  related : ∀ p r w, find p r = some w →
    (p.position + 1 = r.position ∧ Related p r) ∧ w.trail = r.trail ∧ w.name = a.name
  finds : ∀ p r, p.position + 1 = r.position → Related p r → ∃ w, find p r = some w

theorem exists_compares_responseBecomesRequest :
    ∃ find, Compares responseBecomesRequest Feeds find := by
  refine ⟨_, fun _ => rfl, fun _ _ => rfl, fun p r w h => ?_, fun p r hposition h => ?_⟩
  · obtain ⟨value, hvalue, h⟩ := Option.bind_eq_some_iff.1 h
    obtain ⟨response, hresponse, hvalue⟩ := Option.bind_eq_some_iff.1 hvalue
    split at h
    · next hnext =>
      obtain ⟨common, hcommon, h⟩ := Option.bind_eq_some_iff.1 h
      cases h
      exact ⟨⟨hnext.1, response, value, hresponse, hvalue, hnext.2, share_iff.2 ⟨_, hcommon⟩⟩,
        rfl, rfl⟩
    · cases h
  · obtain ⟨response, value, hresponse, hvalue, hmodule, hshare⟩ := h
    obtain ⟨common, hcommon⟩ := share_iff.1 hshare
    have hreturned : returned? p = some value :=
      Option.bind_eq_some_iff.2 ⟨response, hresponse, hvalue⟩
    -- the warning is the one that the analyzer builds, and is found by unification
    constructor
    exact Option.bind_eq_some_iff.2 ⟨value, hreturned, (if_pos ⟨hposition, hmodule⟩).trans
      (Option.bind_eq_some_iff.2 ⟨common, hcommon, rfl⟩)⟩

theorem exists_compares_singleMutations : ∃ find, Compares singleMutations Varies find := by
  refine ⟨_, fun _ => rfl, fun _ _ => rfl, fun p r w h => ?_, fun p r hposition h => ?_⟩
  · split at h
    · next hnext =>
      obtain ⟨common, hcommon, h⟩ := Option.bind_eq_some_iff.1 h
      cases h
      exact ⟨⟨hnext.1, hnext.2.1, hnext.2.2, share_iff.2 ⟨_, hcommon⟩⟩, rfl, rfl⟩
    · cases h
  · obtain ⟨hmethod, hargs, hshare⟩ := h
    obtain ⟨common, hcommon⟩ := share_iff.1 hshare
    constructor
    exact (if_pos ⟨hposition, hmethod, hargs⟩).trans
      (Option.bind_eq_some_iff.2 ⟨common, hcommon, rfl⟩)

/-- The findings are about the calls that are related to the one before them, one about each. -/
structure Marks (a : Analyzer) (Related : Rpc → Rpc → Prop) (rs : List Rpc) (found : List Warning) :
    Prop where
  named : ∀ w ∈ found, w.name = a.name ∧ ∃ r ∈ rs, w.trail = r.trail
  once : (found.map (·.trail)).Nodup
  marked : ∀ (i : Nat) (r : Rpc), rs[i]? = some r → ((∃ w ∈ found, w.trail = r.trail) ↔
    ∃ j p, i = j + 1 ∧ rs[j]? = some p ∧ Related p r)

/-! ### Neighbours -/

theorem mem_zip_tail_iff {rs : List Rpc} {p r : Rpc} :
    (p, r) ∈ rs.zip rs.tail ↔ ∃ j, rs[j]? = some p ∧ rs[j + 1]? = some r := by
  simp only [List.mem_iff_getElem?, List.getElem?_zip_eq_some, List.getElem?_tail]

namespace Compares

variable {a : Analyzer} {Related : Rpc → Rpc → Prop} {find : Rpc → Rpc → Option Warning}

/-- Of the calls before it, a call is only compared with the last one. -/
theorem observe_concat (ha : Compares a Related find) {front : List Rpc} {p r : Rpc}
    (hfront : ∀ q ∈ front, q.position + 1 ≠ r.position) :
    a.observe (front ++ [p]) r = .ok (find p r).toList := by
  have hnone : front.filterMap (find · r) = [] := by
    refine List.filterMap_eq_nil_iff.2 fun q hq => ?_
    by_contra hsome
    obtain ⟨w, hw⟩ := Option.ne_none_iff_exists'.1 hsome
    exact hfront q hq (ha.related q r w hw).1.1
  rw [ha.observe, List.filterMap_append, hnone, List.nil_append]
  cases h : find p r <;> simp only [List.filterMap_cons, h, List.filterMap_nil] <;> rfl

/-- What is found in calls at their positions is found in pairs of neighbours. -/
theorem observeFrom_eq (ha : Compares a Related find) (front : List Rpc) (p : Rpc) (rs : List Rpc)
    (h : ∀ (i : Nat) (r : Rpc), (front ++ p :: rs)[i]? = some r → r.position = i) :
    a.observeFrom (front ++ [p]) rs =
      .ok (((p :: rs).zip rs).filterMap fun e => find e.1 e.2) := by
  -- `p` is the last call before `rs`; its neighbour takes its place as the induction goes on.
  induction rs generalizing front p with
  | nil => rfl
  | cons r rs ih =>
      have hr : r.position = front.length + 1 := h _ r (by simp)
      have hfront : ∀ q ∈ front, q.position + 1 ≠ r.position := by
        intro q hq
        obtain ⟨i, hi, rfl⟩ := List.mem_iff_getElem.1 hq
        have hq : front[i].position = i :=
          h i _ ((List.getElem?_append_left hi).trans (List.getElem?_eq_getElem hi))
        omega
      rw [observeFrom, ha.observe_concat hfront, ih (front ++ [p]) r (by simpa using h)]
      cases hfind : find p r <;> simp [hfind, bind, Except.bind, pure, Except.pure]

theorem run_eq (ha : Compares a Related find) {rs : List Rpc} (hrs : Placed rs) :
    a.run rs = .ok ((rs.zip rs.tail).filterMap fun e => find e.1 e.2) := by
  cases rs with
  | nil => rfl
  | cons r rs =>
      have hnone : a.observe [] r = .ok [] := ha.observe [] r
      rw [run, observeFrom, hnone, ha.observeFrom_eq [] r rs hrs.position]
      rfl

/-- The findings name the second ones of neighbours, in their order. -/
theorem trails_sublist (ha : Compares a Related find) (es : List (Rpc × Rpc)) :
    ((es.filterMap fun e => find e.1 e.2).map (·.trail)).Sublist (es.map (·.2.trail)) := by
  induction es with
  | nil => exact .slnil
  | cons e es ih =>
      cases h : find e.1 e.2 with
      | none =>
          simp only [List.filterMap_cons, h]
          exact ih.cons _
      | some w =>
          simp only [List.filterMap_cons, h, List.map_cons, (ha.related _ _ w h).2.1]
          exact ih.cons_cons _

/-- In calls at their positions the analyzer finds the pairs of related neighbours. -/
theorem exists_run (ha : Compares a Related find) {rs : List Rpc} (hrs : Placed rs) :
    ∃ found, a.run rs = .ok found ∧ Marks a Related rs found := by
  refine ⟨_, ha.run_eq hrs, fun w hw => ?_, ?_, fun i r hr => ?_⟩
  · obtain ⟨⟨p, r⟩, he, hfind⟩ := List.mem_filterMap.1 hw
    obtain ⟨j, -, hr⟩ := mem_zip_tail_iff.1 he
    obtain ⟨-, htrail, hname⟩ := ha.related p r w hfind
    exact ⟨hname, r, List.mem_of_getElem? hr, htrail⟩
  · exact hrs.distinct_zip.sublist (ha.trails_sublist _)
  · constructor
    · rintro ⟨w, hw, htrail⟩
      obtain ⟨⟨p, r'⟩, he, hfind⟩ := List.mem_filterMap.1 hw
      obtain ⟨j, hp, hr'⟩ := mem_zip_tail_iff.1 he
      obtain ⟨⟨-, hrelated⟩, htrail', -⟩ := ha.related p r' w hfind
      obtain ⟨rfl, rfl⟩ := hrs.unique hr hr' (htrail.symm.trans htrail')
      exact ⟨j, p, rfl, hp, hrelated⟩
    · rintro ⟨j, p, rfl, hp, hrelated⟩
      have hnext : p.position + 1 = r.position := by
        rw [hrs.position j p hp, hrs.position _ r hr]
      obtain ⟨w, hw⟩ := ha.finds p r hnext hrelated
      exact ⟨w, List.mem_filterMap.2 ⟨(p, r), mem_zip_tail_iff.2 ⟨j, hp, hr⟩, hw⟩,
        (ha.related p r w hw).2.1⟩

theorem runAll_eq (ha : Compares a Related find) {rs : List Rpc} {found : List Warning}
    (h : a.run rs = .ok found) (passed : Bool) : runAll [a] passed rs = .ok found := by
  simp [runAll, h, ha.counts passed, bind, Except.bind, pure, Except.pure]

end Compares

theorem runAll_append (as bs : List Analyzer) (passed : Bool) (rs : List Rpc) :
    runAll (as ++ bs) passed rs = do
      let found ← runAll as passed rs
      return found ++ (← runAll bs passed rs) := by
  simp only [runAll, List.mapM_append, List.flatten_append, bind_assoc, pure_bind]

end Analyzer

namespace Report

theorem placed_rpcs {r : Report} (hr : r.calls.Distinct) : Placed r.rpcs where
  position := by
    intro i rpc h
    rw [rpcs, List.getElem?_map, List.getElem?_zipIdx, Option.map_map] at h
    obtain ⟨entry, -, rfl⟩ := Option.map_eq_some_iff.1 h
    exact Nat.zero_add i
  distinct := by
    rw [trails_rpcs]
    exact hr

open Analyzer Rpc in
/-- In the calls of a report, whatever was put on record and in whatever order, one analyzer finds
those that are fed by the call before, the other one those that vary it, each of them once and
nothing else; among the findings of a report theirs come last. -/
theorem marks_rpcs (lenient : Bool) (events : List Event) (passed : Bool) :
    ∃ fed varied,
      runAll [responseBecomesRequest] passed ((empty lenient).noteAll events).rpcs = .ok fed ∧
      Marks responseBecomesRequest Feeds ((empty lenient).noteAll events).rpcs fed ∧
      runAll [singleMutations] passed ((empty lenient).noteAll events).rpcs = .ok varied ∧
      Marks singleMutations Varies ((empty lenient).noteAll events).rpcs varied ∧
      ((empty lenient).noteAll events).findings passed lenient = do
        let others ← runAll [redundantRpc lenient, unimplementedFailures] passed
          ((empty lenient).noteAll events).rpcs
        return others ++ (fed ++ varied) := by
  have hcalls := (kept_noteAll lenient events).1
  generalize (empty lenient).noteAll events = r at hcalls ⊢
  have hrs : Placed r.rpcs :=
    placed_rpcs (hcalls ▸ Ledger.distinct_putAll Ledger.distinct_empty _)
  obtain ⟨find, hfeeds⟩ := exists_compares_responseBecomesRequest
  obtain ⟨find', hvaries⟩ := exists_compares_singleMutations
  obtain ⟨fed, hfed, hmarks⟩ := hfeeds.exists_run hrs
  obtain ⟨varied, hvaried, hmarks'⟩ := hvaries.exists_run hrs
  have hfed := hfeeds.runAll_eq hfed passed
  have hvaried := hvaries.runAll_eq hvaried passed
  refine ⟨fed, varied, hfed, hmarks, hvaried, hmarks', ?_⟩
  have hall : all lenient = [redundantRpc lenient, unimplementedFailures] ++
    ([responseBecomesRequest] ++ [singleMutations]) := rfl
  rw [findings, hall, runAll_append, runAll_append [responseBecomesRequest], hfed, hvaried]
  rfl

end Report

end Faultline
