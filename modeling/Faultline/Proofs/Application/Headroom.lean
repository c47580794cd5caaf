import Faultline.Proofs.Application.Siblings
import Faultline.Proofs.Index.Text

/-!
# Room for counting

A request may come with any counts, the largest one included.  The counter of a key goes on from
the largest count that came, so a push has a count above all of them as long as there is one: a key
that came with the largest count of all cannot be pushed (`push_ofTrail`).  In a request the calls
before take their share of the room as well (`counts_exceed`).
-/

namespace Faultline

/-! ### The largest count that came -/

namespace Trail

variable {t : Trail} {key : String}

/-- The largest count of a key is one of its counts. -/
theorem exists_mem_of_maxCount_pos (h : 0 < t.maxCount key) :
    ∃ n : UInt64, (key, n) ∈ t ∧ n.toNat = t.maxCount key := by
  induction t using List.reverseRecOn with
  | nil => cases h
  | append_singleton t e ih =>
      obtain ⟨k, n⟩ := e
      rw [maxCount_concat] at h ⊢
      by_cases hkey : k = key
      · subst hkey
        rw [if_pos rfl] at h ⊢
        rcases Nat.le_total n.toNat (maxCount k t) with hle | hle
        · rw [Nat.max_eq_left hle] at h ⊢
          obtain ⟨m, hm, heq⟩ := ih h
          exact ⟨m, List.mem_append_left _ hm, heq⟩
        · rw [Nat.max_eq_right hle]
          exact ⟨n, List.mem_append_right _ (List.mem_singleton_self _), rfl⟩
      · rw [if_neg hkey] at h ⊢
        obtain ⟨m, hm, heq⟩ := ih h
        exact ⟨m, List.mem_append_left _ hm, heq⟩

theorem maxCount_lt_size (t : Trail) (key : String) : t.maxCount key < UInt64.size := by
  rcases Nat.eq_zero_or_pos (t.maxCount key) with hzero | hpos
  · rw [hzero]
    decide
  · obtain ⟨n, -, hn⟩ := exists_mem_of_maxCount_pos hpos
    rw [← hn]
    exact n.toNat_lt_size

/-- The largest count leaves no room where it is the largest of all. -/
theorem maxCount_eq_iff :
    t.maxCount key = UInt64.size - 1 ↔ (key, 0xFFFFFFFFFFFFFFFF) ∈ t := by
  constructor
  · intro hmax
    have hpos : 0 < t.maxCount key := by
      rw [hmax]
      decide
    obtain ⟨n, hmem, hn⟩ := exists_mem_of_maxCount_pos hpos
    obtain rfl : n = 0xFFFFFFFFFFFFFFFF := UInt64.toNat_inj.1 (hn.trans hmax)
    exact hmem
  · intro hmem
    have hle : UInt64.size - 1 ≤ t.maxCount key := le_maxCount hmem
    have hlt := maxCount_lt_size t key
    omega

/-- A number above the largest count is above all counts. -/
theorem lt_of_maxCount_lt {m n : UInt64} (hn : t.maxCount key < n.toNat) (hm : (key, m) ∈ t) :
    m < n :=
  UInt64.lt_iff_toNat_lt.2 (Nat.lt_of_le_of_lt (le_maxCount hm) hn)

end Trail

/-! ### Pushes onto what came -/

namespace Index

/-- A push onto an index that was read counts on from the largest count of its key, and there is
none only where that is the largest of all. -/
theorem push_ofTrail (t : Trail) (key : Key) :
    match (ofTrail t).push key with
    | .ok j => (key.rendered, 0xFFFFFFFFFFFFFFFF) ∉ t ∧
      ∃ n : UInt64, n.toNat = t.maxCount key.rendered + 1 ∧ j.trail = t.extend key.rendered n
    | .error v => v = .overflow ∧ (key.rendered, 0xFFFFFFFFFFFFFFFF) ∈ t := by
  have hcounter := counter_ofTrail t key.rendered
  rw [← Trail.maxCount_eq_iff, ← hcounter]
  by_cases hfull : (ofTrail t).counter key.rendered = 0xFFFFFFFFFFFFFFFF
  · rw [push, if_pos hfull]
    exact ⟨rfl, congrArg UInt64.toNat hfull⟩
  · rw [push, if_neg hfull]
    refine ⟨fun hmax => hfull (UInt64.toNat_inj.1 hmax), _, toNat_add_one hfull, ?_⟩
    rw [trail_pushCounted_eq, trail_ofTrail]

/-- The name of a call of a request that came with a trail. -/
theorem nameAfter_ofTrail (t : Trail) (keys : List String) (key : String) :
    (ofTrail t).nameAfter keys key =
      if t.maxCount key + keys.count key + 1 < UInt64.size then
        some (t.extend key (.ofNat (t.maxCount key + keys.count key + 1)))
      else none := by
  rw [nameAfter, counter_ofTrail, trail_ofTrail]

end Index

theorem Client.incomingIndex_of_parse? {c : Client} {text : String} {i : Index}
    (htext : c.incoming.index = some text) (hread : Index.parse? text = some i) :
    c.incomingIndex = i := by
  rw [incomingIndex, htext, Option.bind_some, hread, Option.getD_some]

/-! ### The calls of a request -/

/-- A call of a request that came with a trail, after the calls before it: it is named with a count
above the counts that came and the counts that were given, or no count is left for it. -/
def Touch.CountsOn (t : Trail) (before : List Touch) (u : Touch) : Prop :=
  match u.name with
  | some name => ∃ n : UInt64,
    n.toNat = t.maxCount u.key + (before.map (·.key)).count u.key + 1 ∧
    name = t.extend u.key n ∧ (∀ m, (u.key, m) ∈ t → m < n) ∧
    ∀ v ∈ before, ∀ m, v.name = some (t.extend u.key m) → m < n
  | none => UInt64.size ≤ t.maxCount u.key + (before.map (·.key)).count u.key + 1

theorem NamedFrom.countsOn {t : Trail} {ts : List Touch} (hts : NamedFrom (.ofTrail t) ts)
    {before after : List Touch} {u : Touch} (hsplit : ts = before ++ u :: after) :
    u.CountsOn t before := by
  rw [Touch.CountsOn, hts before u after hsplit, Index.nameAfter_ofTrail]
  by_cases hroom : t.maxCount u.key + (before.map (·.key)).count u.key + 1 < UInt64.size
  · rw [if_pos hroom]
    have hn := UInt64.toNat_ofNat_of_lt' hroom
    refine ⟨_, hn, rfl, fun m hm => Trail.lt_of_maxCount_lt (by omega) hm, fun v hv m hname => ?_⟩
    -- the earlier call of the key was given the number of those before it
    obtain ⟨front, back, rfl⟩ := List.append_of_mem hv
    have hv := hts front v (back ++ u :: after) (by simp [hsplit])
    rw [hname, Index.nameAfter_ofTrail] at hv
    split at hv
    · next hfits =>
        obtain ⟨-, hkey, hm⟩ := Trail.extend_inj (Option.some.inj hv)
        rw [UInt64.lt_iff_toNat_lt, hn, hm, UInt64.toNat_ofNat_of_lt' hfits, hkey, List.map_append,
          List.map_cons, List.count_append, List.count_cons_self]
        omega
    · cases hv
  · rw [if_neg hroom]
    omega

namespace Application

variable {σ : Type}

/-- An index that is read from a text: a push has a count above all counts of its key in the text,
unless the largest of all counts is among them, and then there is none.  A request that comes with
the text: however its calls are ordered, each is named with a count above all counts of its key in
the text and above all that were given in the request before, unless the largest count of the text
and the calls before leave no room, and then it has no name. -/
theorem counts_exceed {text : String} {i : Index} (hread : Index.parse? text = some i) :
    (∀ key : Key, match i.push key with
      | .ok j => (key.rendered, 0xFFFFFFFFFFFFFFFF) ∉ i.trail ∧
        ∃ n : UInt64, j.trail = i.trail.extend key.rendered n ∧
          ∀ m, (key.rendered, m) ∈ i.trail → m < n
      | .error v => v = .overflow ∧ (key.rendered, 0xFFFFFFFFFFFFFFFF) ∈ i.trail) ∧
    ∀ (h : Harness σ) (ids : Nat → String) (a : Application σ) (moves : List Move)
      (service request : String), a.world.state.index? service request = none →
      let touches := touchesOf service request (a.log h ids moves)
      (∀ first ∈ touches.head?, ∃ c : Client,
        c.incoming.index = some text ∧ first.fill = c.incomingIndex) →
      ∀ before t after, touches = before ++ t :: after → t.CountsOn i.trail before := by
  obtain ⟨u, -, rfl⟩ := Option.map_eq_some_iff.1 hread
  rw [Index.trail_ofTrail]
  refine ⟨fun key => ?_, ?_⟩
  · have hpush := Index.push_ofTrail u key
    cases hi : (Index.ofTrail u).push key with
    | error v =>
        rw [hi] at hpush
        exact hpush
    | ok j =>
        rw [hi] at hpush
        obtain ⟨hroom, n, hn, hj⟩ := hpush
        exact ⟨hroom, n, hj, fun m hm => Trail.lt_of_maxCount_lt (by omega) hm⟩
  · intro h ids a moves service request hblank touches hfirst before t after hsplit
    have hstart : Kept (a.world.state.index? service request) [] := hblank
    have hkept : Kept ((a.run h ids moves).world.state.index? service request) touches :=
      kept_run hstart moves
    cases htouches : touches with
    | nil => simp [hsplit] at htouches
    | cons first rest =>
        rw [htouches] at hkept hfirst hsplit
        obtain ⟨c, htext, hfill⟩ := hfirst first rfl
        have hnamed := hkept.2
        rw [hfill, Client.incomingIndex_of_parse? htext hread] at hnamed
        exact hnamed.countsOn hsplit

/-- A request that comes with a text, and one call of it. -/
def callWith (text : String) : List Move :=
  [.keep ⟨{ requestId := some "r", index := some text }⟩,
    .create 0 ⟨"a", "b", "m", .empty, "f", 1, ""⟩ none none none, .operate 0 .prepare]

/-- What the call does to the index of its request. -/
def touchesWith (text : String) : List Touch :=
  touchesOf "a" "r" ((start ⟨.empty, ⟨[], [], [], 0⟩⟩).log (.plain .scripted) toString
    (callWith text))

theorem touchesWith_spec (text : String) : ∃ t, touchesWith text = [t] ∧
    t.key = "V1-[]-[a]-[b,m,[]]-[f,1]-[,]" ∧
    ∃ c : Client, c.incoming.index = some text ∧ t.fill = c.incomingIndex := by
  have hkey : (Key.ofCallsite ⟨"a", "b", "m", .empty, "f", 1, ""⟩ .raw).rendered =
      "V1-[]-[a]-[b,m,[]]-[f,1]-[,]" := by cbv
  exact ⟨_, rfl, hkey, Client.make ⟨"a", "b", "m", .empty, "f", 1, ""⟩
    { requestId := some "r", index := some text } "0", rfl, rfl⟩

/-- The key of the call has one count left, another key has none. -/
def limitText : String :=
  "[[\"V1-[]-[a]-[b,m,[]]-[f,1]-[,]\", 18446744073709551614], [\"k\", 18446744073709551615]]"

theorem counts_exceed_limit :
    let key := "V1-[]-[a]-[b,m,[]]-[f,1]-[,]"
    let i := Index.ofTrail [("V1-[]-[a]-[b,m,[]]-[f,1]-[,]", 0xFFFFFFFFFFFFFFFE),
      ("k", 0xFFFFFFFFFFFFFFFF)]
    Index.parse? limitText = some i ∧ i.push (.ofRendered "k") = .error .overflow ∧
      ∃ t, touchesWith limitText = [t] ∧ t.key = key ∧
        t.name = some (i.trail.extend key 0xFFFFFFFFFFFFFFFF) := by
  intro key i
  have hread : Index.parse? limitText = some i := by cbv
  obtain ⟨hpush, hcalls⟩ := counts_exceed (σ := Script) hread
  obtain ⟨t, htouches, hkey, hfirst⟩ := touchesWith_spec limitText
  have htrail : i.trail = [(key, 0xFFFFFFFFFFFFFFFE), ("k", 0xFFFFFFFFFFFFFFFF)] :=
    Index.trail_ofTrail _
  have hk := hpush (.ofRendered "k")
  have hcall := hcalls (.plain .scripted) toString (start ⟨.empty, ⟨[], [], [], 0⟩⟩)
    (callWith limitText) "a" "r" rfl (fun first hmem => ?_) [] t [] htouches
  · have hcount : i.trail.maxCount t.key = 0xFFFFFFFFFFFFFFFE := by
      rw [hkey, htrail]
      decide
    refine ⟨hread, ?_, t, htouches, hkey, ?_⟩
    · cases hi : i.push (.ofRendered "k") with
      | error v =>
          rw [hi] at hk
          rw [hk.1]
      | ok j =>
          rw [hi, htrail] at hk
          exact absurd (List.mem_cons_of_mem _ List.mem_cons_self) hk.1
    · cases hname : t.name with
      | none =>
          rw [Touch.CountsOn, hname, hcount] at hcall
          have hfull : UInt64.size ≤ 0xFFFFFFFFFFFFFFFE + 0 + 1 := hcall
          exact absurd hfull (by decide)
      | some name =>
          rw [Touch.CountsOn, hname, hcount] at hcall
          obtain ⟨n, hn, rfl, -⟩ := hcall
          rw [hkey, show n = 0xFFFFFFFFFFFFFFFF from UInt64.toNat_inj.1 hn]
  · have hhead : (touchesWith limitText).head? = some t := by rw [htouches]; rfl
    obtain rfl : t = first := Option.some.inj (hhead.symm.trans hmem)
    exact hfirst

/-- A text that is read without fault, and a key of it that cannot be pushed; the call of a request
that comes with the text breaks off. -/
theorem full_count_breaks_off :
    let a := Key.ofRendered "V1-[]-[a]-[b,m,[]]-[f,1]-[,]"
    let i := Index.ofTrail [(a.rendered, 0xFFFFFFFFFFFFFFFF)]
    let text := "[[\"V1-[]-[a]-[b,m,[]]-[f,1]-[,]\", 18446744073709551615]]"
    Index.parse? text = some i ∧ i.push a = .error .overflow ∧
      (touchesWith text).map (·.name) = [none] := by
  refine ⟨by cbv, by cbv, by decide +kernel⟩

end Application

end Faultline
