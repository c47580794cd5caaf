import Faultline.Context
import Faultline.Proofs.Explorer.Account

/-!
# The numbers of calls

A call gets the number of its registration as its id, while the report numbers the calls that it
shows by their places.  A call that is registered again gets another id but keeps its place, so
that the numbers of all calls behind it differ from then on.  `shown_iff` states for which calls
the report has an id that was given: those before whose first registration no call was registered
twice.
-/

namespace Faultline

/-! ### Places of first occurrences -/

section

variable {κ : Type} [BEq κ] [LawfulBEq κ]

theorem nodup_eraseDups (ks : List κ) : ks.eraseDups.Nodup := by
  induction ks using List.reverseRecOn with
  | nil => exact List.nodup_nil
  | append_singleton ks k ih =>
      rw [Ledger.eraseDups_concat]
      split
      · exact ih
      · next h =>
        rw [← List.concat_eq_append, List.nodup_concat, List.mem_eraseDups]
        exact ⟨h, ih⟩

theorem length_eraseDups_le (ks : List κ) :
    ks.eraseDups.length ≤ ks.length ∧ (ks.eraseDups.length = ks.length ↔ ks.Nodup) := by
  induction ks using List.reverseRecOn with
  | nil => simp
  | append_singleton ks k ih =>
      obtain ⟨hle, hiff⟩ := ih
      have hnodup := List.nodup_concat ks k
      rw [List.concat_eq_append] at hnodup
      rw [Ledger.eraseDups_concat, hnodup, List.length_append, List.length_singleton]
      by_cases h : k ∈ ks
      · simp only [h, if_true, not_true, false_and, iff_false]
        omega
      · simp only [h, if_false, not_false_eq_true, true_and, ← hiff, List.length_append,
          List.length_singleton]
        omega

/-- A key stands behind the different keys that came before it. -/
theorem getElem?_eraseDups {front back : List κ} {k : κ} (h : k ∉ front) :
    (front ++ k :: back).eraseDups[front.eraseDups.length]? = some k := by
  have hback : (k :: back).removeAll front = k :: back.removeAll front := by
    simp [List.removeAll, h]
  rw [List.eraseDups_append, hback, List.eraseDups_cons, List.getElem?_append_right le_rfl,
    Nat.sub_self]
  rfl

end

namespace Report

/-- A document shows a call with a number. -/
def Shows (document : Json) (t : Trail) (number : String) : Prop :=
  ∃ shown rpc, document.get? "rpcs" = some (.arr shown) ∧ rpc ∈ shown ∧
    rpc.get? "dei" = some (.str t.text) ∧ rpc.get? "generated_id" = some (.str number)

theorem mem_rpcs_iff (r : Report) (t : Trail) (i : Nat) :
    (∃ rpc ∈ r.rpcs, rpc.trail = t ∧ rpc.position = i) ↔ r.calls.keys[i]? = some t := by
  rw [Ledger.keys, List.getElem?_map, Option.map_eq_some_iff]
  constructor
  · rintro ⟨rpc, hrpc, rfl, rfl⟩
    obtain ⟨⟨entry, position⟩, hentry, rfl⟩ := List.mem_map.1 hrpc
    exact ⟨entry, List.mem_zipIdx_iff_getElem?.1 hentry, rfl⟩
  · rintro ⟨entry, hentry, rfl⟩
    have hmem : (entry, i) ∈ r.calls.entries.zipIdx := List.mem_zipIdx_iff_getElem?.2 hentry
    exact ⟨_, List.mem_map_of_mem hmem, rfl, rfl⟩

/-- A call is shown with its number among the calls. -/
theorem shows_iff (r : Report) (id createdAt : String) (t : Trail) (number : String) :
    Shows (r.document id createdAt) t number ↔
      ∃ i, r.calls.keys[i]? = some t ∧ number = Nat.repr (i + 1) := by
  simp only [← mem_rpcs_iff]
  constructor
  · rintro ⟨shown, json, hshown, hjson, hdei, hnumber⟩
    rw [get?_document] at hshown
    cases hshown
    obtain ⟨rpc, hrpc, htrail, rfl⟩ := exists_of_dei hjson hdei
    rw [(r.get?_rpcJson rpc).1] at hnumber
    cases hnumber
    exact ⟨rpc.position, ⟨rpc, hrpc, Trail.text_inj.1 htrail, rfl⟩, rfl⟩
  · rintro ⟨i, ⟨rpc, hrpc, rfl, rfl⟩, rfl⟩
    exact ⟨_, r.rpcJson rpc, r.get?_document id createdAt, List.mem_map_of_mem hrpc,
      (r.get?_rpcJson rpc).2.1, (r.get?_rpcJson rpc).1⟩

end Report

namespace Explorer

/-- What is done with an explorer: an operation, or something with its report. -/
inductive Handling where
  | op (o : Op)
  /-- A call was answered from a cache. -/
  | cached (t : Trail)
  | write (id createdAt : String) (iteration : UInt32) (failed : Bool)

def handle (x : Explorer) : Handling → Explorer
  | .op o => x.step o
  | .cached t => { x with report := x.report.recordCached t }
  | .write id createdAt iteration failed =>
    { x with report := (x.report.write id createdAt iteration failed).2 }

def handleAll (x : Explorer) (hs : List Handling) : Explorer :=
  hs.foldl handle x

/-- The registrations of the execution at hand with their ids, after one more step. -/
def number (x : Explorer) (log : List (Trail × Int64)) : Handling → List (Trail × Int64)
  | .op (.register record) =>
    match x.current, trailOf record, x.register record with
    | some _, .ok t, .ok (d, _) => log ++ [(t, d.generatedId)]
    | _, _, _ => log
  | .op .retire => []
  | _ => log

def numberedFrom (x : Explorer) (log : List (Trail × Int64)) :
    List Handling → List (Trail × Int64)
  | [] => log
  | h :: hs => numberedFrom (x.handle h) (x.number log h) hs

/-- The registrations of the execution that is at hand in the end, each with the id that it was
given. -/
def numbered (x : Explorer) (hs : List Handling) : List (Trail × Int64) :=
  x.numberedFrom [] hs

theorem numberedFrom_concat (x : Explorer) (log : List (Trail × Int64)) (hs : List Handling)
    (h : Handling) :
    x.numberedFrom log (hs ++ [h]) = (x.handleAll hs).number (x.numberedFrom log hs) h := by
  induction hs generalizing x log with
  | nil => rfl
  | cons o hs ih => exact ih (x.handle o) (x.number log o)

/-- The calls in the report and the ids of an execution after its registrations. -/
structure Numbered (x : Explorer) (log : List (Trail × Int64)) : Prop where
  calls : x.report.calls.keys = (log.map (·.1)).eraseDups
  ids : ∀ k entry, log[k]? = some entry → entry.2 = Int64.ofNat (k + 1)
  count : ∀ e, x.current = some e → e.registrations = log.length
  idle : x.current = none → log = []

variable {x y : Explorer} {log : List (Trail × Int64)} {t : Trail}

namespace Numbered

theorem congr (h : x.Numbered log) (hcalls : y.report.calls = x.report.calls)
    (hcurrent : y.current.map (·.registrations) = x.current.map (·.registrations)) :
    y.Numbered log := by
  refine ⟨by rw [hcalls]; exact h.calls, h.ids, fun e he => ?_, fun he => ?_⟩
  · rw [he, Option.map_some] at hcurrent
    obtain ⟨e', he', hcount⟩ := Option.map_eq_some_iff.1 hcurrent.symm
    exact hcount.symm.trans (h.count e' he')
  · rw [he, Option.map_none] at hcurrent
    exact h.idle (Option.map_eq_none_iff.1 hcurrent.symm)

theorem scheduleAll (h : x.Numbered log) (os : List (Trail × Fault)) :
    (x.scheduleAll os).Numbered log :=
  h.congr (by rw [report_scheduleAll]) (by rw [current_scheduleAll])

/-- A registration gets the next id; its call gets a place if it has none. -/
theorem noteCall (h : x.Numbered log) {e : Execution} (he : x.current = some e) (t : Trail)
    (record : Json) :
    (x.noteCall e t record).Numbered (log ++ [(t, Int64.ofNat (e.registrations + 1))]) := by
  have hcount : e.registrations = log.length := h.count e he
  refine ⟨?_, fun k entry hk => ?_, fun e' he' => ?_, fun hidle => by cases hidle⟩
  · show (x.report.calls.put t record).keys = _
    rw [Ledger.keys_put, h.calls, List.map_append, List.map_singleton, Ledger.eraseDups_concat]
    simp only [List.mem_eraseDups]
  · by_cases hlast : k < log.length
    · rw [List.getElem?_append_left hlast] at hk
      exact h.ids k entry hk
    · have hle : k < log.length + 1 := by
        simpa using (List.getElem?_eq_some_iff.1 hk).1
      obtain rfl : k = log.length := by omega
      rw [List.getElem?_concat_length] at hk
      cases hk
      rw [hcount]
  · cases he'
    rw [List.length_append, ← hcount]
    rfl

theorem complete (h : x.Numbered log) (t : Trail) (record : Json) :
    (x.noteOutcome t record).Numbered log := by
  refine h.congr ?_ ?_
  · simp only [Explorer.noteOutcome]
    split <;> rfl
  · cases he : x.current with
    | none => simp [Explorer.noteOutcome, he]
    | some e =>
        simp only [Explorer.noteOutcome, he, Option.map_some, Execution.complete]
        split <;> rfl

theorem greet (h : x.Numbered log) (service : String) : (x.greet service).2.Numbered log := by
  unfold Explorer.greet
  cases he : x.current with
  | none => exact h
  | some e =>
      simp only
      split
      · exact h
      · refine h.congr rfl ?_
        simp only [he, Option.map_some, Execution.greet]
        split <;> rfl

/-- The next execution starts with nothing registered. -/
theorem retire (h : x.Numbered log) : x.retire.Numbered [] := by
  have hids : ∀ (k : Nat) (entry : Trail × Int64), ([] : List (Trail × Int64))[k]? = some entry →
      entry.2 = Int64.ofNat (k + 1) := fun k entry hk => by cases hk
  cases he : x.current with
  | none =>
      rw [retire_of_idle he]
      exact h.idle he ▸ h
  | some e =>
      unfold Explorer.retire
      rw [he]
      simp only
      split
      · refine ⟨rfl, hids, fun e he => ?_, fun _ => rfl⟩
        cases he
      · refine ⟨rfl, hids, fun e he => ?_, fun _ => rfl⟩
        cases he
        rfl

end Numbered

theorem numbered_start (analysis : Option Analysis) (lenient : Bool) :
    (start analysis lenient).Numbered [] := by
  refine ⟨rfl, fun k entry hk => ?_, fun e he => ?_, fun _ => rfl⟩
  · cases hk
  · cases he
    rfl

theorem Numbered.handle (h : x.Numbered log) (a : Handling) :
    (x.handle a).Numbered (x.number log a) := by
  cases a with
  | op o =>
      cases o with
      | register record =>
          cases ht : trailOf record with
          | error e =>
              simp only [Explorer.handle, step, number, ht, register_of_unnamed ht]
              cases x.current <;> exact h
          | ok t =>
              cases he : x.current with
              | none =>
                  simp only [Explorer.handle, step, register_of_idle ht he, number, he]
                  exact h
              | some e =>
                  simp only [Explorer.handle, step, register_eq ht he, number, ht, he]
                  exact (h.noteCall he t record).scheduleAll _
      | complete record =>
          cases ht : trailOf record with
          | error e =>
              simp only [Explorer.handle, step, complete_of_unnamed ht]
              exact h
          | ok t =>
              simp only [Explorer.handle, step, complete_eq ht]
              exact (h.complete t record).scheduleAll _
      | greet service => exact h.greet service
      | retire => exact h.retire
      | load document =>
          simp only [Explorer.handle, step]
          split
          · exact h.congr rfl rfl
          · exact h
  | cached t => exact h.congr rfl rfl
  | write id createdAt iteration failed =>
      exact h.congr (x.report.kept_write id createdAt iteration failed).1 rfl

theorem numbered_handleAll (analysis : Option Analysis) (lenient : Bool) (hs : List Handling) :
    ((start analysis lenient).handleAll hs).Numbered ((start analysis lenient).numbered hs) := by
  induction hs using List.reverseRecOn with
  | nil => exact numbered_start analysis lenient
  | append_singleton hs a ih =>
      rw [numbered, numberedFrom_concat, handleAll, List.foldl_append]
      exact ih.handle a

/-! ### What the report shows -/

/-- The calls that were registered before a call was for the first time. -/
def before (log : List (Trail × Int64)) (t : Trail) : List Trail :=
  (log.map (·.1)).takeWhile (· ≠ t)

theorem exists_before (h : t ∈ log.map (·.1)) :
    t ∉ before log t ∧ ∃ back, log.map (·.1) = before log t ++ t :: back := by
  obtain ⟨front, back, hsplit, hfront⟩ := List.eq_append_cons_of_mem h
  have hbefore : before log t = front := by
    rw [before, hsplit, List.takeWhile_append_of_pos, List.takeWhile_cons_of_neg, List.append_nil]
    · simp
    · intro u hu
      simpa using fun heq : u = t => hfront (heq ▸ hu)
  exact ⟨hbefore ▸ hfront, back, hbefore ▸ hsplit⟩

theorem int64Text_ofNat {n : Nat} (h : n < 2 ^ 63) :
    Context.int64Text (Int64.ofNat n) = Nat.repr n := by
  have hint : (Int64.ofNat n).toInt = n := Int64.toInt_ofNat_of_lt h
  rw [Context.int64Text, hint, Json.intChars, if_neg (by omega), Int.natAbs_natCast]
  rfl

namespace Numbered

/-- A call is shown with its number among the different calls. -/
theorem shows_iff (h : x.Numbered log) {id createdAt : String} {document : Json} {r : Report}
    (hdocument : x.report.toJson id createdAt = .ok (document, r)) (ht : t ∈ log.map (·.1))
    (number : String) :
    Report.Shows document t number ↔
      number = Nat.repr ((before log t).eraseDups.length + 1) := by
  obtain ⟨hfresh, back, hsplit⟩ := exists_before ht
  have hplace : (log.map (·.1)).eraseDups[(before log t).eraseDups.length]? = some t := by
    rw [hsplit]
    exact getElem?_eraseDups hfresh
  have hkeys : r.calls.keys = (log.map (·.1)).eraseDups := by
    rw [(Report.kept_of_toJson hdocument).1, h.calls]
  obtain ⟨found, -, -, rfl⟩ := Report.toJson_eq_ok_iff.1 hdocument
  rw [Report.shows_iff, hkeys]
  constructor
  · rintro ⟨i, hi, rfl⟩
    obtain ⟨hlt, -⟩ := List.getElem?_eq_some_iff.1 hi
    rw [(List.getElem?_inj hlt (nodup_eraseDups _)).1 (hi.trans hplace.symm)]
  · rintro rfl
    exact ⟨_, hplace, rfl⟩

theorem text_given (h : x.Numbered log) (hcount : log.length < 2 ^ 63) {k : Nat} {given : Int64}
    (hk : log[k]? = some (t, given)) : Context.int64Text given = Nat.repr (k + 1) := by
  obtain ⟨hlt, -⟩ := List.getElem?_eq_some_iff.1 hk
  have hgiven : given = Int64.ofNat (k + 1) := h.ids k _ hk
  rw [hgiven, int64Text_ofNat (by omega)]

/-- The first registration of a call got the number of the call as its id if no call came twice
before it.  Otherwise this id and all later ones are greater. -/
theorem given_iff (h : x.Numbered log) (hcount : log.length < 2 ^ 63) (ht : t ∈ log.map (·.1)) :
    (∃ given, (t, given) ∈ log ∧
      Context.int64Text given = Nat.repr ((before log t).eraseDups.length + 1)) ↔
      (before log t).Nodup := by
  obtain ⟨hfresh, back, hsplit⟩ := exists_before ht
  obtain ⟨hle, hnodup⟩ := length_eraseDups_le (before log t)
  rw [← hnodup]
  constructor
  · rintro ⟨given, hmem, htext⟩
    obtain ⟨k, hk⟩ := List.mem_iff_getElem?.1 hmem
    have hsame : k + 1 = (before log t).eraseDups.length + 1 :=
      Nat.repr_inj.1 ((h.text_given hcount hk).symm.trans htext)
    have hge : (before log t).length ≤ k := by
      by_contra hlt
      have htrail : (log.map (·.1))[k]? = some t := by
        rw [List.getElem?_map, hk]
        rfl
      rw [hsplit, List.getElem?_append_left (by omega)] at htrail
      exact hfresh (List.mem_of_getElem? htrail)
    omega
  · intro hlength
    have htrail : (log.map (·.1))[(before log t).length]? = some t := by
      rw [hsplit]
      simp
    rw [List.getElem?_map] at htrail
    obtain ⟨⟨_, given⟩, hk, rfl⟩ := Option.map_eq_some_iff.1 htrail
    exact ⟨given, List.mem_of_getElem? hk, by rw [h.text_given hcount hk, hlength]⟩

end Numbered

/-- For every call of the execution at hand the document shows one id, its number among the
different calls.  It is an id that a registration of the call was given exactly when no call was
registered twice before the call was registered at first. -/
theorem shown_iff (analysis : Option Analysis) (lenient : Bool) (hs : List Handling)
    (id createdAt : String) {document : Json} {r : Report}
    (h : ((start analysis lenient).handleAll hs).report.toJson id createdAt = .ok (document, r))
    (hcount : ((start analysis lenient).numbered hs).length < 2 ^ 63) {t : Trail}
    (ht : t ∈ ((start analysis lenient).numbered hs).map (·.1)) :
    let log := (start analysis lenient).numbered hs
    let shown := Nat.repr ((before log t).eraseDups.length + 1)
    (∀ number, Report.Shows document t number ↔ number = shown) ∧
      ((∃ given, (t, given) ∈ log ∧ Context.int64Text given = shown) ↔ (before log t).Nodup) :=
  have hnumbered := numbered_handleAll analysis lenient hs
  ⟨hnumbered.shows_iff h ht, hnumbered.given_iff hcount ht⟩

/-- Three registrations, of which the first two are of one call. -/
def repeated : List Handling :=
  ["[[\"a\", 1]]", "[[\"a\", 1]]", "[[\"b\", 1]]"].map fun text =>
    .op (.register (.object [("execution_index", .str text)]))

theorem numbered_repeated :
    (start none false).numbered repeated = [([("a", 1)], 1), ([("a", 1)], 2), ([("b", 1)], 3)] := by
  decide +kernel

theorem exists_document_repeated : ∃ document r,
    ((start none false).handleAll repeated).report.toJson "" "" = .ok (document, r) := by
  have hok : (((start none false).handleAll repeated).report.toJson "" "").isOk = true := by
    decide +kernel
  cases h : ((start none false).handleAll repeated).report.toJson "" "" with
  | error flaw =>
      rw [h] at hok
      cases hok
  | ok shown => exact ⟨shown.1, shown.2, rfl⟩

theorem shown_iff_repeated :
    ∃ document r, ((start none false).handleAll repeated).report.toJson "" "" = .ok (document, r) ∧
      Report.Shows document [("a", 1)] "1" ∧ ¬ Report.Shows document [("b", 1)] "3" := by
  obtain ⟨document, r, h⟩ := exists_document_repeated
  have hcount : ((start none false).numbered repeated).length < 2 ^ 63 := by
    rw [numbered_repeated]
    decide
  have ha := shown_iff none false repeated "" "" h hcount (t := [("a", 1)])
    (by rw [numbered_repeated]; decide)
  have hb := shown_iff none false repeated "" "" h hcount (t := [("b", 1)])
    (by rw [numbered_repeated]; decide)
  rw [numbered_repeated] at ha hb
  refine ⟨document, r, h, (ha.1 "1").2 (by decide), fun hshown => ?_⟩
  exact absurd ((hb.1 "3").1 hshown) (by decide)

/-- The number of the second call is none of the ids that its registrations were given. -/
theorem shows_repeated :
    ∃ document r, ((start none false).handleAll repeated).report.toJson "" "" = .ok (document, r) ∧
      Report.Shows document [("b", 1)] "2" ∧
      ∀ given, ([("b", 1)], given) ∈ (start none false).numbered repeated →
        Context.int64Text given ≠ "2" := by
  obtain ⟨document, r, h⟩ := exists_document_repeated
  refine ⟨document, r, h, ?_, fun given hgiven => ?_⟩
  · have hnumbered := numbered_handleAll none false repeated
    rw [numbered_repeated] at hnumbered
    exact (hnumbered.shows_iff h (by decide) "2").2 (by decide)
  · rw [numbered_repeated] at hgiven
    obtain rfl : given = 3 := by simpa using hgiven
    decide

end Explorer

end Faultline
