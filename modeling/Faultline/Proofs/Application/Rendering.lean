import Faultline.Proofs.Application.Questions
import Faultline.Proofs.Explorer.Account
import Faultline.Proofs.Traffic.Explored

/-!
# Reports can always be written

An application that asks an explorer, while the test looks after the explorer in between.  The
only way for a report to fail is a completion without an outcome.  Clients report none, and the
arrival of a call is no completion, so that every completion on record has an outcome at all times
(`Settled`).  The report always comes out, as a document that shows what is on record and found
(`Renders`, `reports_render`).
-/

namespace Faultline

/-! ### When a report comes out -/

theorem exists_bind_eq_ok {α β ε : Type} {e : Except ε α} {f : α → Except ε β} (he : ∃ a, e = .ok a)
    (hf : ∀ a, ∃ b, f a = .ok b) : ∃ b, e >>= f = .ok b := by
  obtain ⟨a, rfl⟩ := he
  exact hf a

theorem exists_mapM_eq_ok {α β ε : Type} {f : α → Except ε β} {as : List α}
    (h : ∀ a ∈ as, ∃ b, f a = .ok b) : ∃ bs, as.mapM f = .ok bs := by
  induction as with
  | nil => exact ⟨[], rfl⟩
  | cons a as ih =>
      rw [List.mapM_cons]
      refine exists_bind_eq_ok (h a List.mem_cons_self) fun b => ?_
      exact exists_bind_eq_ok (ih fun a' ha' => h a' (List.mem_cons_of_mem a ha')) fun bs =>
        ⟨b :: bs, rfl⟩

namespace Analyzer

theorem exists_observeFrom {a : Analyzer} {rs : List Rpc}
    (h : ∀ earlier, ∀ r ∈ rs, ∃ found, a.observe earlier r = .ok found) (earlier : List Rpc) :
    ∃ found, a.observeFrom earlier rs = .ok found := by
  induction rs generalizing earlier with
  | nil => exact ⟨[], rfl⟩
  | cons r rs ih =>
      refine exists_bind_eq_ok (h earlier r List.mem_cons_self) fun here => ?_
      refine exists_bind_eq_ok (ih (fun e r' hr' => ?_) (earlier ++ [r])) fun rest => ⟨_, rfl⟩
      exact h e r' (List.mem_cons_of_mem r hr')

/-- An answered call is compared with others by its outcome; nothing else is asked of it. -/
theorem exists_observe_of_mem_all {lenient : Bool} {a : Analyzer} (ha : a ∈ all lenient) {r : Rpc}
    (hr : ∀ response ∈ r.response, (outcome? response).isSome = true) (earlier : List Rpc) :
    ∃ found, a.observe earlier r = .ok found := by
  simp only [all, List.mem_cons, List.not_mem_nil, or_false] at ha
  rcases ha with rfl | rfl | rfl | rfl
  · simp only [redundantRpc]
    cases hresponse : r.response with
    | none => exact ⟨_, rfl⟩
    | some response =>
        obtain ⟨outcome, houtcome⟩ := Option.isSome_iff_exists.1 (hr response hresponse)
        simp only [houtcome]
        split <;> exact ⟨_, rfl⟩
  · simp only [unimplementedFailures]
    split <;> exact ⟨_, rfl⟩
  · exact ⟨_, rfl⟩
  · exact ⟨_, rfl⟩

theorem exists_runAll {as : List Analyzer} {rs : List Rpc}
    (h : ∀ a ∈ as, ∃ found, a.run rs = .ok found) (passed : Bool) :
    ∃ found, runAll as passed rs = .ok found := by
  refine exists_bind_eq_ok (exists_mapM_eq_ok fun a ha => ?_) fun found => ⟨found.flatten, rfl⟩
  obtain ⟨warnings, hwarnings⟩ := h a ha
  exact ⟨_, by rw [hwarnings]⟩

end Analyzer

namespace Report

/-- What holds of the report of an explorer at all times. -/
structure Settled (r : Report) : Prop where
  /-- No call has two records. -/
  distinct : r.calls.Distinct
  /-- Every completion on record has an outcome. -/
  answered : ∀ t completion, r.completions.get? t = some completion →
    (Analyzer.outcome? completion).isSome = true

variable {r : Report}

/-- The analyzers get through a report with outcomes. -/
theorem Settled.exists_findings (h : r.Settled) :
    ∃ findings, r.findings r.passed r.lenient = .ok findings := by
  have hrun : ∀ a ∈ Analyzer.all r.lenient, ∃ found, a.run r.rpcs = .ok found := by
    refine fun a ha => Analyzer.exists_observeFrom (fun earlier rpc hrpc => ?_) []
    refine Analyzer.exists_observe_of_mem_all ha (fun response hresponse => ?_) earlier
    obtain ⟨e, -, rfl⟩ := List.mem_map.1 hrpc
    exact h.answered _ response hresponse
  exact Analyzer.exists_runAll hrun r.passed

/-- What comes out of a report: its findings, and a document that shows them and the report. -/
structure Renders (r : Report) (id createdAt : String) (findings : List Warning)
    (shown : List Json) : Prop where
  found : r.findings r.passed r.lenient = .ok findings
  comesOut : ∃ document, r.toJson id createdAt = .ok (document, { r with warnings := findings }) ∧
    document.get? "rpcs" = some (.arr shown)
  shown : r.ShownBy findings shown

/-- A settled report comes out. -/
theorem Settled.exists_renders (h : r.Settled) (id createdAt : String) :
    ∃ findings shown, r.Renders id createdAt findings shown := by
  obtain ⟨findings, hfound⟩ := h.exists_findings
  obtain ⟨shown, hshown, hshows⟩ := exists_shownBy h.distinct hfound id createdAt
  exact ⟨findings, shown, hfound, ⟨_, toJson_eq_ok_iff.2 ⟨findings, hfound, rfl, rfl⟩, hshown⟩,
    hshows⟩

theorem settled_empty (lenient : Bool) : (empty lenient).Settled :=
  ⟨Ledger.distinct_empty, fun _ _ h => by cases h⟩

theorem Settled.recordCall (h : r.Settled) (t : Trail) (record : Json) :
    (r.recordCall t record).Settled :=
  ⟨Ledger.distinct_put h.distinct t record, h.answered⟩

theorem Settled.addFaults (h : r.Settled) (fs : List (Trail × Json)) : (r.addFaults fs).Settled :=
  ⟨h.distinct, h.answered⟩

theorem Settled.recordCompletion (h : r.Settled) (t : Trail) {completion : Json}
    (hcompletion : (Analyzer.outcome? completion).isSome = true) :
    (r.recordCompletion t completion).Settled := by
  refine ⟨h.distinct, fun t' completion' hget => ?_⟩
  rw [Report.recordCompletion, Ledger.get?_put] at hget
  split at hget
  · cases hget
    exact hcompletion
  · exact h.answered t' completion' hget

end Report

/-! ### What clients and servers report -/

theorem Client.outcome?_completionRecord (c : Client) {kind : String} (hkind : kind ∈ outcomeKinds)
    (outcome : Json) :
    (Analyzer.outcome? (c.completionRecord kind outcome)).isSome = true := by
  have hget : (c.completionRecord kind outcome).get? kind = some outcome := by
    rw [get?_completionRecord, if_pos rfl]
  rw [Analyzer.outcome?, List.findSome?_isSome_iff]
  refine ⟨kind, ?_, by rw [hget]; rfl⟩
  simp only [outcomeKinds, List.mem_cons, List.not_mem_nil, or_false] at hkind
  rcases hkind with rfl | rfl | rfl | rfl <;> simp [Analyzer.outcomeNames]

theorem Client.ne_of_mem_outcomeKinds {kind : String} (hkind : kind ∈ outcomeKinds) :
    kind ≠ "execution_index" ∧ kind ≠ "instrumentation_type" := by
  simp only [outcomeKinds, List.mem_cons, List.not_mem_nil, or_false] at hkind
  rcases hkind with rfl | rfl | rfl | rfl <;> decide

/-- That a call arrived is not taken for its completion. -/
theorem Server.isCompletion_arrivalRecord (server : Server) (index : String) :
    Explorer.isCompletion (server.arrivalRecord index) = false := by
  cbv

namespace Explorer

variable {x : Explorer}

/-- The report of an outcome never fails. -/
theorem exists_complete (x : Explorer) (c : Client) {kind : String}
    (hkind : kind ∈ Client.outcomeKinds) (outcome : Json) :
    ∃ r y, x.complete (c.completionRecord kind outcome) = .ok (r, y) :=
  ⟨_, _, complete_eq (c.trailOf_completionRecord outcome (Client.ne_of_mem_outcomeKinds hkind).1)⟩

/-- A report stays settled unless a completion without an outcome is noted. -/
theorem settled_step (h : x.report.Settled) {op : Op}
    (hop : ∀ record, op = .complete record → isCompletion record = true →
      (Analyzer.outcome? record).isSome = true) :
    (x.step op).report.Settled := by
  cases op with
  | register record =>
      cases ht : trailOf record with
      | error e =>
          simp only [step, register_of_unnamed ht]
          exact h
      | ok t =>
          cases he : x.current with
          | none =>
              simp only [step, register_of_idle ht he]
              exact h
          | some e =>
              simp only [step, register_eq ht he, report_scheduleAll]
              exact h.recordCall t record
  | complete record =>
      cases ht : trailOf record with
      | error e =>
          simp only [step, complete_of_unnamed ht]
          exact h
      | ok t =>
          simp only [step, complete_eq ht, report_scheduleAll, noteOutcome]
          split
          · next hcompletion => exact h.recordCompletion t (hop record rfl hcompletion)
          · exact h
  | greet service =>
      simp only [step, greet]
      split
      · split <;> exact h
      · exact h
  | retire =>
      simp only [step, retire]
      split
      · exact h
      · split
        · exact Report.settled_empty x.lenient
        · exact (Report.settled_empty x.lenient).addFaults _
  | load document =>
      simp only [step]
      split <;> exact h

end Explorer

/-! ### Explorers and who asks them -/

/-- How a harness comes by its explorer: it is given one, or looks up what is installed. -/
inductive Access where
  | given
  | lookedUp

namespace Access

/-- What a harness keeps of its source. -/
def Place : Access → Type
  | given => Explorer
  | lookedUp => Option Explorer

def source : (access : Access) → Source access.Place
  | given => Source.explorer
  | lookedUp => Source.explorer.installed

def explorer? : (access : Access) → access.Place → Option Explorer
  | given => some
  | lookedUp => id

/-- A place with an explorer. -/
def seat (x : Explorer) : (access : Access) → access.Place
  | given => x
  | lookedUp => some x

/-- Another explorer is installed, or none; one that was given stays. -/
def install (x : Option Explorer) : (access : Access) → access.Place → access.Place
  | given => id
  | lookedUp => fun _ => x

/-- The explorer is changed, if there is one. -/
def change (f : Explorer → Explorer) : (access : Access) → access.Place → access.Place
  | given => f
  | lookedUp => Option.map f

def harness (access : Access) (config : Config) (counterexample : Option Counterexample)
    (registry : Registry) : Harness access.Place :=
  ⟨config, access.source, counterexample, registry⟩

variable {access : Access} {place : access.Place} {x : Explorer}

theorem explorer?_seat (x : Explorer) : access.explorer? (access.seat x) = some x := by
  cases access <;> rfl

theorem explorer?_change (f : Explorer → Explorer) :
    access.explorer? (access.change f place) = (access.explorer? place).map f := by
  cases access <;> rfl

theorem of_explorer?_install {y : Option Explorer}
    (h : access.explorer? (access.install y place) = some x) :
    access.explorer? place = some x ∨ y = some x := by
  cases access with
  | given => exact .inl h
  | lookedUp => exact .inr h

/-- A question is an operation on the explorer. -/
def opOf : Question → Explorer.Op
  | .isNew service => .greet service
  | .register record => .register record
  | .report record _ => .complete record

theorem put_explorer (x : Explorer) (q : Question) : Source.explorer.put x q = x.step (opOf q) := by
  cases q with
  | isNew service => rfl
  | register record =>
      simp only [Source.put, Source.explorer, opOf, Explorer.step]
      cases x.register record <;> rfl
  | report record update =>
      simp only [Source.put, Source.explorer, opOf, Explorer.step]
      cases x.complete record <;> rfl

theorem put_installed {σ : Type} (s : Source σ) (y : Option σ) (q : Question) :
    s.installed.put y q = y.map (s.put · q) := by
  cases y with
  | none => cases q <;> rfl
  | some x =>
      cases q with
      | isNew service =>
          simp only [Source.put, Source.installed, Source.whenInstalled, Option.map_some]
          cases s.isNew service x <;> rfl
      | register record =>
          simp only [Source.put, Source.installed, Source.whenInstalled, Option.map_some]
          cases s.register record x <;> rfl
      | report record update =>
          simp only [Source.put, Source.installed, Source.whenInstalled, Option.map_some]
          cases s.report record update x <;> rfl

theorem explorer?_put (q : Question) :
    access.explorer? (access.source.put place q) =
      (access.explorer? place).map (·.step (opOf q)) := by
  cases access with
  | given => exact congrArg some (put_explorer place q)
  | lookedUp =>
      refine (put_installed Source.explorer place q).trans ?_
      simp only [put_explorer]
      rfl

end Access

/-- A call that clients and servers report as completed has an outcome. -/
theorem Question.Genuine.outcome {q : Question} (hq : q.Genuine) {record : Json}
    (hop : Access.opOf q = .complete record) (hcompletion : Explorer.isCompletion record = true) :
    (Analyzer.outcome? record).isSome = true := by
  cases hq with
  | isNew service => cases hop
  | registered c => cases hop
  | completed c hkind outcome =>
      cases hop
      exact c.outcome?_completionRecord hkind outcome
  | arrived server index =>
      cases hop
      rw [server.isCompletion_arrivalRecord index] at hcompletion
      cases hcompletion

/-- What a test does with its explorer, apart from the calls. -/
inductive Chore where
  | greet (service : String)
  | retire
  | load (document : Json)
  /-- A call was answered from a cache. -/
  | cached (t : Trail)
  | write (id createdAt : String) (iteration : UInt32) (failed : Bool)

namespace Chore

def apply (x : Explorer) : Chore → Explorer
  | greet service => x.step (.greet service)
  | retire => x.step .retire
  | load document => x.step (.load document)
  | cached t => { x with report := x.report.recordCached t }
  | write id createdAt iteration failed =>
    { x with report := (x.report.write id createdAt iteration failed).2 }

theorem settled_apply {x : Explorer} (h : x.report.Settled) (c : Chore) :
    (c.apply x).report.Settled := by
  cases c with
  | greet | retire | load => exact Explorer.settled_step h fun record hop => by cases hop
  | cached t => exact ⟨h.distinct, h.answered⟩
  | write id createdAt iteration failed =>
      obtain ⟨hcalls, hcompletions⟩ := x.report.kept_write id createdAt iteration failed
      constructor
      · rw [apply, hcalls]
        exact h.distinct
      · rw [apply, hcompletions]
        exact h.answered

end Chore

/-- A step of an application, or one of the test that looks after the explorer. -/
inductive Incident where
  | move (m : Application.Move)
  | chore (c : Chore)
  /-- A new explorer is installed. -/
  | install (analysis : Option Analysis) (lenient : Bool)
  | uninstall

namespace Application

variable {access : Access}

/-- What happens to an application; only its own moves touch more than the source. -/
def happen (h : Harness access.Place) (ids : Nat → String) (a : Application access.Place) :
    Incident → Application access.Place
  | .move m => a.step h ids m
  | .chore c => { a with world := { a.world with source := access.change c.apply a.world.source } }
  | .install analysis lenient =>
    let x := Explorer.start analysis lenient
    { a with world := { a.world with source := access.install (some x) a.world.source } }
  | .uninstall => { a with world := { a.world with source := access.install none a.world.source } }

/-- An application after some incidents. -/
def runAmid (h : Harness access.Place) (ids : Nat → String) (a : Application access.Place)
    (incidents : List Incident) : Application access.Place :=
  incidents.foldl (happen h ids) a

/-- The reports of all explorers that are asked are settled. -/
def Settled (a : Application access.Place) : Prop :=
  ∀ x, access.explorer? a.world.source = some x → x.report.Settled

variable {config : Config} {counterexample : Option Counterexample} {registry : Registry}
  {ids : Nat → String} {a : Application access.Place}

/-- Nothing that an application asks leaves a completion without an outcome. -/
theorem settled_step (ha : a.Settled) (m : Move) :
    (a.step (access.harness config counterexample registry) ids m).Settled := by
  intro x hx
  have hasked : access.source.Asked a.world.source
      (a.step (access.harness config counterexample registry) ids m).world.source :=
    asked_step (access.harness config counterexample registry) ids a m
  rcases hasked with hsame | ⟨q, hq, hput⟩
  · rw [hsame] at hx
    exact ha x hx
  · rw [hput, Access.explorer?_put] at hx
    obtain ⟨y, hy, rfl⟩ := Option.map_eq_some_iff.1 hx
    exact Explorer.settled_step (ha y hy) fun record hop => hq.outcome hop

theorem settled_happen (ha : a.Settled) (e : Incident) :
    (a.happen (access.harness config counterexample registry) ids e).Settled := by
  cases e with
  | move m => exact settled_step ha m
  | chore c =>
      intro x hx
      rw [happen, Access.explorer?_change] at hx
      obtain ⟨y, hy, rfl⟩ := Option.map_eq_some_iff.1 hx
      exact Chore.settled_apply (ha y hy) c
  | install analysis lenient =>
      intro x hx
      rcases Access.of_explorer?_install hx with hx | hx
      · exact ha x hx
      · cases hx
        exact Report.settled_empty lenient
  | uninstall =>
      intro x hx
      rcases Access.of_explorer?_install hx with hx | hx
      · exact ha x hx
      · cases hx

theorem settled_runAmid (ha : a.Settled) (incidents : List Incident) :
    (a.runAmid (access.harness config counterexample registry) ids incidents).Settled := by
  induction incidents generalizing a with
  | nil => exact ha
  | cons e incidents ih => exact ih (settled_happen ha e)

/-- However an application and its explorer get on, the registration and the outcome of a client's
call are taken without an error, every completion on record has an outcome, and the report comes
out and is shown by its document. -/
theorem reports_render (access : Access) (config : Config) (counterexample : Option Counterexample)
    (registry : Registry) (ids : Nat → String) (state : State) (analysis : Option Analysis)
    (lenient : Bool) (incidents : List Incident) (x : Explorer)
    (hx : access.explorer? ((start ⟨state, access.seat (.start analysis lenient)⟩).runAmid
      (access.harness config counterexample registry) ids incidents).world.source = some x) :
    (∀ c : Client, ∃ d y, x.register c.invocationRecord = .ok (d, y)) ∧
    (∀ c : Client, ∀ kind ∈ Client.outcomeKinds, ∀ outcome,
      ∃ r y, x.complete (c.completionRecord kind outcome) = .ok (r, y)) ∧
    (∀ t completion, x.report.completions.get? t = some completion →
      (Analyzer.outcome? completion).isSome = true) ∧
    ∀ id createdAt, ∃ findings shown, x.report.Renders id createdAt findings shown := by
  have hstart : (start ⟨state, access.seat (.start analysis lenient)⟩ :
      Application access.Place).Settled := by
    intro y hy
    obtain rfl := Option.some.inj (Access.explorer?_seat _ ▸ hy)
    exact Report.settled_empty lenient
  have hsettled : x.report.Settled := settled_runAmid hstart incidents x hx
  exact ⟨x.exists_register, fun c kind hkind outcome => x.exists_complete c hkind outcome,
    hsettled.answered, hsettled.exists_renders⟩

/-- A call that is answered, and arrives at its server before and after. -/
def answeredCall : List Incident :=
  [.move (.keep ⟨{ requestId := some "r" }⟩),
    .move (.create 0 ⟨"a", "b", "m", .empty, "f", 1, ""⟩ none none none),
    .move (.operate 0 .prepare), .move (.operate 0 .register), .move (.deliver 0 "b"),
    .move (.receive 0 0), .move (.operate 0 (.complete "c" [] none)), .move (.receive 0 0)]

/-- The explorer after that. -/
def afterAnsweredCall : Explorer :=
  ((start ⟨.empty, Access.given.seat (.start none false)⟩).runAmid
    (Access.given.harness { digesting := .raw } none .default) toString answeredCall).world.source

theorem reports_render_answeredCall :
    Access.given.explorer? ((start ⟨.empty, Access.given.seat (.start none false)⟩).runAmid
      (Access.given.harness { digesting := .raw } none .default) toString
        answeredCall).world.source = some afterAnsweredCall ∧
      afterAnsweredCall.report.completions.keys = [[("V1-[]-[a]-[b,m,[]]-[f,1]-[,]", 1)]] ∧
      ∃ findings shown, afterAnsweredCall.report.Renders "" "" findings shown ∧
        shown.map (·.get? "dei") =
          [some (.str (Trail.text [("V1-[]-[a]-[b,m,[]]-[f,1]-[,]", 1)]))] := by
  refine ⟨rfl, by decide +kernel, ?_⟩
  obtain ⟨-, -, -, hrenders⟩ := reports_render .given { digesting := .raw } none .default toString
    .empty none false answeredCall afterAnsweredCall rfl
  obtain ⟨findings, shown, h⟩ := hrenders "" ""
  have hkeys : afterAnsweredCall.report.calls.keys =
      [[("V1-[]-[a]-[b,m,[]]-[f,1]-[,]", 1)]] := by decide +kernel
  exact ⟨findings, shown, h, by rw [h.shown.order, hkeys]; rfl⟩

end Application

end Faultline
