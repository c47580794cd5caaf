import Faultline.Client
import Faultline.Proofs.Json.Divergence
import Faultline.Proofs.Json.Enclosed
import Faultline.Proofs.Key
import Faultline.Report.Analyzer
import Mathlib.Data.List.ReduceOption

/-!
# Calls that repeat earlier ones

A call is found where the texts of its signature, arguments and outcome, read on from one to the
next, are those of an earlier call.  The kind of the outcome is not among them, and nothing stands
between them, so that calls are found which repeat no earlier one.  Where signatures are digested
and the outcomes are those that clients report, the texts are told apart and the kind shows in the
members of the outcome: then just the repetitions are found (`flags_run`).
-/

namespace Faultline

theorem Entries.isSome_find?_ofPairs {α : Type} {l : List (String × α)} {k : String}
    (h : k ∈ l.map (·.1)) : (find? k (ofPairs l)).isSome := by
  induction l using List.reverseRecOn with
  | nil => cases h
  | append_singleton l m ih =>
      rw [ofPairs, List.foldl_append, List.foldl_cons, List.foldl_nil, find?_insert]
      split
      · rfl
      · next hne =>
        rw [List.map_append, List.mem_append] at h
        exact ih (h.resolve_right fun h => hne (List.mem_singleton.1 h))

namespace Rpc

/-- The outcome of a call that was answered, with its kind: the first member that can be one. -/
def outcome? (r : Rpc) : Option (String × Json) := do
  let response ← r.response
  Analyzer.outcomeNames.findSome? fun kind => (response.get? kind).map (kind, ·)

/-- The call was not answered, or its response carries an outcome. -/
def Settled (r : Rpc) : Prop :=
  r.response.isSome → r.outcome?.isSome

def signatureText (r : Rpc) : String :=
  r.signature?.getD ""

/-- Two calls with the same signature, arguments and outcome. -/
structure Repeats (p r : Rpc) : Prop where
  signature : p.signature? = r.signature?
  arguments : p.argumentsText = r.argumentsText
  outcome : ∃ kind value value', p.outcome? = some (kind, value) ∧
    r.outcome? = some (kind, value') ∧ value.same value' = true

/-- Two calls whose texts are the same when they are read without a break. -/
def Coincides (p r : Rpc) : Prop :=
  ∃ e e', p.outcome? = some e ∧ r.outcome? = some e' ∧
    p.signatureText ++ p.argumentsText ++ e.2.compact =
      r.signatureText ++ r.argumentsText ++ e'.2.compact

/-- Neither signature goes on where the other one ends. -/
def Aligned (p r : Rpc) : Prop :=
  ∀ s t : String, p.signatureText ++ s = r.signatureText ++ t → p.signatureText = r.signatureText

/-- The outcomes that clients report, under their kinds. -/
inductive Reported : String → Json → Prop
  | returned (type : String) (value : Json) (properties : List (String × Json)) :
      Reported "return_value"
        (.object ([("__class__", .str type), ("value", value)] ++ properties))
  | failed (name : String) (metadata : Json) :
      Reported "exception" (.object [("name", .str name), ("metadata", metadata)])
  | replaced (type : String) (value : Json) :
      Reported "byzantine_fault" (.object [("type", .str type), ("value", value)])
  | mutated (kind : TransformerKind) (value next : Json) (hasNext : Bool) :
      Reported "transformer_fault" (.object [("value", value), ("accumulator", next),
        ("type", kind.toJson), ("has_next", .bool hasNext)])

/-- The kind of an outcome as it shows in the members. -/
def kindOf (value : Json) : String :=
  if (value.get? "__class__").isSome then "return_value"
  else if (value.get? "metadata").isSome then "exception"
  else if (value.get? "has_next").isSome then "transformer_fault"
  else "byzantine_fault"

theorem Reported.kindOf_eq {kind : String} {value : Json} (h : Reported kind value) :
    kindOf value = kind := by
  cases h with
  | returned type value properties => exact if_pos (Entries.isSome_find?_ofPairs (by simp))
  | failed | replaced | mutated =>
      simp [kindOf, Json.object, Json.get?, Entries.ofPairs, Entries.find?_insert,
        Entries.find?_nil]

theorem Reported.enclosed {kind : String} {value : Json} (h : Reported kind value) :
    value.Enclosed := by
  cases h <;> trivial

/-- The outcome of an answered call is one that a client reports, without floats. -/
def Regular (r : Rpc) : Prop :=
  ∀ kind value, r.outcome? = some (kind, value) → Reported kind value ∧ value.Plain

theorem signature?_ne (r : Rpc) : r.signature? ≠ some "" := by
  intro h
  obtain ⟨e, -, h⟩ := Option.bind_eq_some_iff.1 h
  obtain ⟨metadata, -, h⟩ := Option.bind_eq_some_iff.1 h
  obtain ⟨signature, -, h⟩ := Option.bind_eq_some_iff.1 h
  have hlength := congrArg String.length (Option.some.inj h)
  have hdash : "-".length = 1 := rfl
  have hempty : "".length = 0 := rfl
  rw [String.length_append, String.length_append] at hlength
  omega

theorem signature?_inj {p r : Rpc} (h : p.signatureText = r.signatureText) :
    p.signature? = r.signature? := by
  have hp := signature?_ne p
  have hr := signature?_ne r
  simp only [signatureText] at h
  cases hps : p.signature? <;> cases hrs : r.signature? <;> simp_all

theorem Coincides.repeats {p r : Rpc} (h : p.Coincides r) (haligned : p.Aligned r)
    (hp : p.Regular) (hr : r.Regular) : p.Repeats r := by
  obtain ⟨⟨kind, value⟩, ⟨kind', value'⟩, he, he', htexts⟩ := h
  obtain ⟨hreported, hplain⟩ := hp kind value he
  obtain ⟨hreported', hplain'⟩ := hr kind' value' he'
  rw [String.append_assoc, String.append_assoc] at htexts
  have hsignature := haligned _ _ htexts
  -- Behind the signatures both texts end in an object, which neither starts earlier nor later.
  have hrest : p.argumentsText.toList ++ Json.chars value =
      r.argumentsText.toList ++ Json.chars value' := by
    rw [hsignature] at htexts
    simpa [Json.compact] using congrArg String.toList htexts
  obtain ⟨harguments, hchars⟩ := hreported.enclosed.append_chars_inj hreported'.enclosed hrest
  obtain rfl : value = value' :=
    hplain.eq_of_chars_append hplain' Document.ends_nil Document.ends_nil (by simpa using hchars)
  obtain rfl : kind = kind' := hreported.kindOf_eq.symm.trans hreported'.kindOf_eq
  exact ⟨signature?_inj hsignature, String.toList_inj.1 harguments, kind, value, value, he, he',
    Json.same_iff.2 rfl⟩

theorem Repeats.coincides {p r : Rpc} (h : p.Repeats r) (hp : p.Regular) (hr : r.Regular) :
    p.Coincides r := by
  obtain ⟨hsignature, harguments, kind, value, value', he, he', hsame⟩ := h
  obtain rfl : value = value' :=
    Json.eq_of_same hsame (hp kind value he).2.floatFree (hr kind value' he').2.floatFree
  exact ⟨_, _, he, he', by rw [signatureText, signatureText, hsignature, harguments]⟩

/-- The last key is that of a callsite whose metadata and signature are digested, as they are by
default. -/
def Digested (r : Rpc) : Prop :=
  ∃ (c : Callsite) (d : Digesting) (n : UInt64),
    r.trail.getLast? = some ((Key.ofCallsite c d).rendered, n) ∧ Key.Readable c d ∧
      d.metadata = true ∧ d.signature = true

theorem Digested.length_signatureText {r : Rpc} (h : r.Digested) :
    r.signatureText.length = 129 := by
  obtain ⟨c, d, n, hlast, hreadable, hmetadata, hsignature⟩ := h
  have hread := (Key.components?_eq_some_iff (k := .ofRendered (Key.ofCallsite c d).rendered) rfl).2
    hreadable
  have htext : r.signatureText =
      Digest.ofText c.metadata ++ "-" ++ Digest.ofText (Key.signature c) := by
    simp [signatureText, signature?, hlast, Key.onlyMetadataAndSignature?, Key.onlyMetadata?,
      Key.onlySignature?, hread, Key.componentsOf, Key.component, hmetadata, hsignature]
  rw [htext, String.length_append, String.length_append, Digest.length_ofText,
    Digest.length_ofText]
  rfl

/-- Digests have their length, so signatures of them are told from what stands behind them. -/
theorem Digested.aligned {p r : Rpc} (hp : p.Digested) (hr : r.Digested) : p.Aligned r := by
  intro s t h
  have hlength : p.signatureText.toList.length = r.signatureText.toList.length := by
    rw [String.length_toList, String.length_toList, hp.length_signatureText,
      hr.length_signatureText]
  rw [← String.toList_inj, String.toList_append, String.toList_append] at h
  exact String.toList_inj.1 (List.append_inj_left h hlength)

end Rpc

namespace Analyzer

variable {r : Rpc} {earlier : List Rpc}

theorem bind_outcome? (r : Rpc) : r.response.bind outcome? = r.outcome?.map (·.2) := by
  cases h : r.response with
  | none => simp [Rpc.outcome?, h]
  | some response =>
      simp [Rpc.outcome?, h, outcome?, List.map_findSome?, Function.comp_def]

theorem repetitionKey?_eq (r : Rpc) :
    repetitionKey? r = r.outcome?.map fun e => repetitionKey r e.2 := by
  have hkey : repetitionKey? r = (r.response.bind outcome?).map (repetitionKey r) := by
    rw [repetitionKey?]
    cases r.response with
    | none => rfl
    | some response => exact Option.map_eq_bind.symm
  rw [hkey, bind_outcome?, Option.map_map]
  rfl

/-- An earlier call has the key of a call when their texts coincide. -/
theorem contains_repetitionKey_iff (earlier : List Rpc) {e : String × Json}
    (he : r.outcome? = some e) :
    (earlier.filterMap repetitionKey?).contains (repetitionKey r e.2) = true ↔
      ∃ p ∈ earlier, p.Coincides r := by
  rw [List.contains_iff_mem, List.mem_filterMap]
  refine exists_congr fun p => and_congr_right fun _ => ?_
  rw [repetitionKey?_eq, Option.map_eq_some_iff]
  constructor
  · rintro ⟨e', he', hkey⟩
    exact ⟨e', e, he', he, hkey⟩
  · rintro ⟨e₁, e₂, he₁, he₂, hkey⟩
    rw [he, Option.some.injEq] at he₂
    exact ⟨e₁, he₁, he₂ ▸ hkey⟩

/-- What is found at a call that comes after others. -/
structure Flags (earlier : List Rpc) (r : Rpc) (here : Option Warning) : Prop where
  named : ∀ w ∈ here, w.trail = r.trail ∧ w.name = "RedundantRPC"
  /-- The texts of an earlier call are those of this one. -/
  texts : here.isSome ↔ ∃ p ∈ earlier, p.Coincides r
  /-- No repetition is missed; one with another kind of outcome is not told from them. -/
  again : ∀ p ∈ earlier, p.signature? = r.signature? → p.argumentsText = r.argumentsText →
    (∃ kind kind' value, p.outcome? = some (kind, value) ∧ r.outcome? = some (kind', value)) →
    here.isSome
  /-- Just the repetitions are found where the texts are told apart. -/
  exact : (∀ p ∈ earlier, p.Aligned r ∧ p.Regular) → r.Regular →
    (here.isSome ↔ ∃ p ∈ earlier, p.Repeats r)

theorem Flags.of_texts {here : Option Warning}
    (named : ∀ w ∈ here, w.trail = r.trail ∧ w.name = "RedundantRPC")
    (texts : here.isSome ↔ ∃ p ∈ earlier, p.Coincides r) : Flags earlier r here := by
  refine ⟨named, texts, fun p hp hsignature harguments => ?_, fun hearlier hr => ?_⟩
  · rintro ⟨kind, kind', value, he, he'⟩
    refine texts.2 ⟨p, hp, _, _, he, he', ?_⟩
    rw [Rpc.signatureText, Rpc.signatureText, hsignature, harguments]
  · refine texts.trans (exists_congr fun p => and_congr_right fun hp => ?_)
    obtain ⟨haligned, hregular⟩ := hearlier p hp
    exact ⟨fun h => h.repeats haligned hregular hr, fun h => h.coincides hregular hr⟩

theorem exists_flags (h : r.Settled) (earlier : List Rpc) :
    ∃ here, (redundantRpc false).observe earlier r = .ok here.toList ∧ Flags earlier r here := by
  cases hresponse : r.response with
  | none =>
      have hnone : r.outcome? = none := by simp [Rpc.outcome?, hresponse]
      refine ⟨none, ?_, .of_texts (by simp) (by simp [Rpc.Coincides, hnone])⟩
      simp only [redundantRpc, hresponse]
      rfl
  | some response =>
      obtain ⟨e, he⟩ := Option.isSome_iff_exists.1 (h (Option.isSome_of_eq_some hresponse))
      have houtcome : outcome? response = some e.2 := by
        simpa [hresponse, he] using bind_outcome? r
      have hkey := contains_repetitionKey_iff earlier he
      by_cases hseen : ∃ p ∈ earlier, p.Coincides r
      · obtain ⟨w, hw, hnamed⟩ : ∃ w : Warning, (redundantRpc false).observe earlier r = .ok [w] ∧
            w.trail = r.trail ∧ w.name = "RedundantRPC" := by
          simp only [redundantRpc, hresponse, houtcome, hkey.2 hseen, Bool.false_and,
            Bool.not_false, Bool.and_self, if_true]
          exact ⟨_, rfl, rfl, rfl⟩
        exact ⟨some w, hw, .of_texts (by simpa using hnamed) (by simp [hseen])⟩
      · refine ⟨none, ?_, .of_texts (by simp) (by simp [hseen])⟩
        simp only [redundantRpc, hresponse, houtcome, mt hkey.1 hseen, Bool.false_and]
        rfl

/-- What holds of every call that is looked at holds along a run. -/
theorem exists_observeFrom_forall {a : Analyzer} {Holds : List Rpc → Rpc → Option Warning → Prop}
    {rs : List Rpc} (h : ∀ r ∈ rs, ∀ earlier, ∃ here : Option Warning,
      a.observe earlier r = .ok here.toList ∧ Holds earlier r here) (earlier : List Rpc) :
    ∃ found : List (Option Warning), a.observeFrom earlier rs = .ok found.reduceOption ∧
      found.length = rs.length ∧ ∀ (i : Nat) (r : Rpc) (here : Option Warning),
        rs[i]? = some r → found[i]? = some here → Holds (earlier ++ rs.take i) r here := by
  induction rs generalizing earlier with
  | nil => exact ⟨[], rfl, rfl, by simp⟩
  | cons r rs ih =>
      obtain ⟨hr, hrs⟩ := List.forall_mem_cons.1 h
      obtain ⟨here, hobserve, hhere⟩ := hr earlier
      obtain ⟨found, hfound, hlength, hall⟩ := ih hrs (earlier ++ [r])
      refine ⟨here :: found, ?_, by simp [hlength], fun i r' here' hr' hhere' => ?_⟩
      · rw [observeFrom, hobserve, hfound]
        cases here <;> rfl
      · cases i with
        | zero =>
            cases hr'
            cases hhere'
            simpa using hhere
        | succ i => simpa using hall i r' here' hr' hhere'

/-- In every run over calls whose responses carry an outcome, a call is found where the texts of an
earlier one coincide with its own; these are the repetitions, and no others, where signatures
neither of which goes on behind the other one come with outcomes that clients report. -/
theorem flags_run {rs : List Rpc} (h : ∀ r ∈ rs, r.Settled) :
    ∃ found : List (Option Warning), (redundantRpc false).run rs = .ok found.reduceOption ∧
      found.length = rs.length ∧ ∀ (i : Nat) (r : Rpc) (here : Option Warning),
        rs[i]? = some r → found[i]? = some here → Flags (rs.take i) r here := by
  simpa [run] using exists_observeFrom_forall (fun r hr => exists_flags (h r hr)) []

/-- A call of a method whose signature is digested, answered with a value. -/
def reading (n : UInt64) : Rpc where
  position := n.toNat
  trail := [((Key.ofCallsite ⟨"api", "M", "m", .empty, "f", 1, ""⟩ {}).rendered, n)]
  invocation := .object [("args", .object [("toString", .str "a")])]
  fault := none
  response := some (.object [("return_value", .object [("__class__", .str "R"), ("value", .null)])])
  cached := false

theorem outcome?_reading (n : UInt64) : (reading n).outcome? =
    some ("return_value", .object [("__class__", .str "R"), ("value", .null)]) := rfl

theorem regular_reading (n : UInt64) : (reading n).Regular := by
  intro kind value h
  cases (outcome?_reading n).symm.trans h
  exact ⟨.returned "R" .null [], by decide, by decide⟩

theorem digested_reading (n : UInt64) : (reading n).Digested :=
  ⟨_, _, n, rfl, by decide, rfl, rfl⟩

theorem flags_run_reading :
    ∃ w : Warning, (redundantRpc false).run [reading 1, reading 2] = .ok [w] ∧
      w.trail = (reading 2).trail := by
  have hsettled : ∀ r ∈ [reading 1, reading 2], r.Settled := by simp [Rpc.Settled, outcome?_reading]
  obtain ⟨found, hrun, hlength, hflags⟩ := flags_run hsettled
  obtain ⟨first, second, rfl⟩ := List.length_eq_two.1 hlength
  have hfirst := hflags 0 (reading 1) first rfl rfl
  have hsecond := hflags 1 (reading 2) second rfl rfl
  have hnone : first = none := by simpa using hfirst.texts
  have hrepeats : (reading 1).Repeats (reading 2) :=
    ⟨rfl, rfl, _, _, _, outcome?_reading 1, outcome?_reading 2, by decide⟩
  have hearlier : ∀ p ∈ [reading 1], p.Aligned (reading 2) ∧ p.Regular := by
    simpa using ⟨(digested_reading 1).aligned (digested_reading 2), regular_reading 1⟩
  obtain ⟨w, rfl⟩ := Option.isSome_iff_exists.1
    ((hsecond.exact hearlier (regular_reading 2)).2 ⟨_, List.mem_singleton_self _, hrepeats⟩)
  refine ⟨w, ?_, (hsecond.named w rfl).1⟩
  rw [hrun, hnone]
  rfl

/-- The call of a method with some arguments, answered with an outcome of some kind. -/
def answered (n : UInt64) (arguments kind : String) (outcome : Json) : Rpc where
  position := n.toNat
  trail := [("k", n)]
  invocation := .object [("args", .object [("toString", .str arguments)])]
  fault := none
  response := some (.object [(kind, outcome)])
  cached := false

/-- Texts that run together and another kind of outcome make calls that are found and repeat
nothing; the sign of a zero hides a repetition. -/
theorem flags_ne_repeats :
    (∃ w, (redundantRpc false).run [answered 1 "1" "return_value" (.ofNat 23),
        answered 2 "12" "return_value" (.ofNat 3)] = .ok [w]) ∧
      ¬(answered 1 "1" "return_value" (.ofNat 23)).Repeats
        (answered 2 "12" "return_value" (.ofNat 3)) ∧
    (∃ w, (redundantRpc false).run [answered 1 "1" "return_value" (.ofNat 1),
        answered 2 "1" "exception" (.ofNat 1)] = .ok [w]) ∧
      ¬(answered 1 "1" "return_value" (.ofNat 1)).Repeats
        (answered 2 "1" "exception" (.ofNat 1)) ∧
    (redundantRpc false).run [answered 1 "1" "return_value" (.float ⟨0⟩),
        answered 2 "1" "return_value" (.float ⟨0x8000000000000000⟩)] = .ok [] ∧
      (answered 1 "1" "return_value" (.float ⟨0⟩)).Repeats
        (answered 2 "1" "return_value" (.float ⟨0x8000000000000000⟩)) := by
  refine ⟨⟨_, rfl⟩, fun h => ?_, ⟨_, rfl⟩, fun h => ?_, rfl, ?_⟩
  · exact absurd h.arguments (by decide)
  · obtain ⟨kind, value, value', he, he', -⟩ := h.outcome
    have hkind : "return_value" = kind := congrArg Prod.fst (Option.some.inj he)
    have hkind' : "exception" = kind := congrArg Prod.fst (Option.some.inj he')
    exact absurd (hkind.trans hkind'.symm) (by decide)
  · exact ⟨rfl, rfl, "return_value", _, _, rfl, rfl, by decide⟩

end Analyzer

end Faultline
