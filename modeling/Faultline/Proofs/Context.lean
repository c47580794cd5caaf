import Faultline.Context
import Faultline.Proofs.Text.Numeral
import Mathlib

/-!
# Contexts through their headers

A context arrives as it was sent, in whatever order its headers come, whatever the letter case of
their names is, and whatever other headers come with them (`ofHeaders_of_perm`).  Each field has a
header of its own, which alone changes it and which gives back what was written; a `Part` is a
field with these facts, and all that is said of headers is said of a part.
-/

namespace Faultline

attribute [ext] Context

namespace Context

/-- The names of the headers that a context is read from. -/
def names : List String :=
  [requestIdHeader, generatedIdHeader, clockHeader, originClockHeader, indexHeader,
    forcedSleepHeader]

/-- The names of the headers are in lower case. -/
theorem toLower_names : ∀ name ∈ names, name.toLower = name := by
  intro name h
  simp only [names, List.mem_cons, List.not_mem_nil, or_false] at h
  rcases h with rfl | rfl | rfl | rfl | rfl | rfl <;> cbv

/-- Each field of a context is read from the header with its name. -/
theorem readHeader_eq (c : Context) (h : String × String) :
    readHeader c h =
      { requestId := if h.1.toLower = requestIdHeader then some h.2 else c.requestId
        generatedId := if h.1.toLower = generatedIdHeader then
          Text.readInt64? (Text.trim h.2) else c.generatedId
        clock := if h.1.toLower = clockHeader then some h.2 else c.clock
        originClock := if h.1.toLower = originClockHeader then some h.2 else c.originClock
        index := if h.1.toLower = indexHeader then some h.2 else c.index
        forcedSleepMs := if h.1.toLower = forcedSleepHeader then
          Text.readUInt64? (Text.trim h.2) else c.forcedSleepMs } := by
  by_cases hname : h.1.toLower ∈ names
  · simp only [names, List.mem_cons, List.not_mem_nil, or_false] at hname
    rcases hname with hname | hname | hname | hname | hname | hname <;>
      simp only [readHeader, hname] <;> rfl
  · simp only [names, List.mem_cons, List.not_mem_nil, or_false, not_or] at hname
    obtain ⟨h₁, h₂, h₃, h₄, h₅, h₆⟩ := hname
    simp only [readHeader, if_neg h₁, if_neg h₂, if_neg h₃, if_neg h₄, if_neg h₅, if_neg h₆]

theorem fst_of_mem_header {α : Type} {name : String} {write : α → String} {v : Option α}
    {h : String × String} (hh : h ∈ header name write v) : h.1 = name := by
  cases v with
  | none => simp [header] at hh
  | some a =>
      obtain rfl : h = (name, write a) := by simpa [header] using hh
      rfl

theorem fst_mem_names {c : Context} {h : String × String} (hh : h ∈ c.toHeaders) :
    h.1 ∈ names := by
  simp only [toHeaders, List.mem_append] at hh
  rcases hh with ((((hh | hh) | hh) | hh) | hh) | hh <;>
    simp [fst_of_mem_header hh, names]

theorem filter_header {α : Type} (name : String) (write : α → String) (v : Option α) :
    (header name write v).filter (fun h => h.1 = name) = header name write v :=
  List.filter_eq_self.2 fun _ hh => decide_eq_true (fst_of_mem_header hh)

theorem filter_header_of_ne {α : Type} {name other : String} (h : name ≠ other)
    (write : α → String) (v : Option α) :
    (header name write v).filter (fun h => h.1 = other) = [] :=
  List.filter_eq_nil_iff.2 fun _ hh hname =>
    h ((fst_of_mem_header hh).symm.trans (of_decide_eq_true hname))

/-- Each field has the only header with its name. -/
theorem filter_toHeaders (c : Context) :
    c.toHeaders.filter (fun h => h.1 = requestIdHeader) = header requestIdHeader id c.requestId ∧
    c.toHeaders.filter (fun h => h.1 = generatedIdHeader) =
      header generatedIdHeader int64Text c.generatedId ∧
    c.toHeaders.filter (fun h => h.1 = clockHeader) = header clockHeader id c.clock ∧
    c.toHeaders.filter (fun h => h.1 = originClockHeader) =
      header originClockHeader id c.originClock ∧
    c.toHeaders.filter (fun h => h.1 = indexHeader) = header indexHeader id c.index ∧
    c.toHeaders.filter (fun h => h.1 = forcedSleepHeader) =
      header forcedSleepHeader (fun n => Nat.repr n.toNat) c.forcedSleepMs := by
  refine ⟨?_, ?_, ?_, ?_, ?_, ?_⟩ <;>
    simp (disch := decide) only [toHeaders, List.filter_append, filter_header,
      filter_header_of_ne, List.append_nil, List.nil_append]

/-- A field of a context, with the header that carries it. -/
structure Part (α : Type) where
  name : String
  field : Context → Option α
  write : α → String
  read : String → Option α
  mem_names : name ∈ names
  field_empty : field empty = none
  field_readHeader : ∀ c h,
    field (readHeader c h) = if h.1.toLower = name then read h.2 else field c
  filter_toHeaders : ∀ c,
    c.toHeaders.filter (fun h => h.1 = name) = header name write (field c)
  read_write : ∀ a, read (write a) = some a

namespace Part

variable {α : Type} (p : Part α)

/-- The last header with the name of a field is what counts. -/
theorem field_foldl (hs : List (String × String)) (c : Context) :
    p.field (hs.foldl readHeader c) =
      match (hs.filter fun h => h.1.toLower = p.name).getLast? with
      | some h => p.read h.2
      | none => p.field c := by
  induction hs using List.reverseRecOn with
  | nil => rfl
  | append_singleton hs h ih =>
      rw [List.foldl_append, List.foldl_cons, List.foldl_nil, p.field_readHeader, ih,
        List.filter_append]
      by_cases hname : h.1.toLower = p.name <;> simp [hname]

/-- However the names are written, there is one header for each field that is present. -/
theorem filter_respelled (c : Context) (spell : String → String)
    (hspell : ∀ name ∈ names, (spell name).toLower = name) :
    (c.toHeaders.map fun h => (spell h.1, h.2)).filter (fun h => h.1.toLower = p.name) =
      (header p.name p.write (p.field c)).map fun h => (spell h.1, h.2) := by
  rw [List.filter_map, ← p.filter_toHeaders]
  refine congrArg _ (List.filter_congr fun h hh => ?_)
  simp [hspell h.1 (fst_mem_names hh)]

/-- A field arrives as it was sent. -/
theorem field_ofHeaders (c : Context) (spell : String → String)
    (hspell : ∀ name ∈ names, (spell name).toLower = name) (foreign : List (String × String))
    (hforeign : ∀ h ∈ foreign, h.1.toLower ∉ names) {hs : List (String × String)}
    (hperm : hs.Perm ((c.toHeaders.map fun h => (spell h.1, h.2)) ++ foreign)) :
    p.field (ofHeaders hs) = p.field c := by
  have hothers : foreign.filter (fun h => h.1.toLower = p.name) = [] := by
    refine List.filter_eq_nil_iff.2 fun h hh hname => hforeign h hh ?_
    rw [of_decide_eq_true hname]
    exact p.mem_names
  have hown := hperm.filter fun h => decide (h.1.toLower = p.name)
  rw [List.filter_append, p.filter_respelled c spell hspell, hothers, List.append_nil] at hown
  rw [ofHeaders, p.field_foldl]
  cases hfield : p.field c with
  | none =>
      rw [hfield] at hown
      rw [List.Perm.eq_nil hown]
      exact p.field_empty
  | some a =>
      rw [hfield] at hown
      rw [List.perm_singleton.1 hown]
      exact p.read_write a

/-- A field that is sent with the other fields alone. -/
theorem field_toHeaders (c : Context) : p.field (ofHeaders c.toHeaders) = p.field c :=
  p.field_ofHeaders c id toLower_names [] (List.forall_mem_nil _) (by simp)

end Part

/-! ### The fields -/

def requestIdPart : Part String where
  name := requestIdHeader
  field := requestId
  write := id
  read := some
  mem_names := by simp [names]
  field_empty := rfl
  field_readHeader c h := by rw [readHeader_eq]
  filter_toHeaders c := c.filter_toHeaders.1
  read_write _ := rfl

def generatedIdPart : Part Int64 where
  name := generatedIdHeader
  field := generatedId
  write := int64Text
  read s := Text.readInt64? (Text.trim s)
  mem_names := by simp [names]
  field_empty := rfl
  field_readHeader c h := by rw [readHeader_eq]
  filter_toHeaders c := c.filter_toHeaders.2.1
  read_write i := by
    rw [int64Text, Text.trim_intChars, Text.readInt64?_intChars i.le_toInt i.toInt_lt,
      Int64.ofInt_toInt]

def clockPart : Part String where
  name := clockHeader
  field := clock
  write := id
  read := some
  mem_names := by simp [names]
  field_empty := rfl
  field_readHeader c h := by rw [readHeader_eq]
  filter_toHeaders c := c.filter_toHeaders.2.2.1
  read_write _ := rfl

def originClockPart : Part String where
  name := originClockHeader
  field := originClock
  write := id
  read := some
  mem_names := by simp [names]
  field_empty := rfl
  field_readHeader c h := by rw [readHeader_eq]
  filter_toHeaders c := c.filter_toHeaders.2.2.2.1
  read_write _ := rfl

def indexPart : Part String where
  name := indexHeader
  field := index
  write := id
  read := some
  mem_names := by simp [names]
  field_empty := rfl
  field_readHeader c h := by rw [readHeader_eq]
  filter_toHeaders c := c.filter_toHeaders.2.2.2.2.1
  read_write _ := rfl

def forcedSleepPart : Part UInt64 where
  name := forcedSleepHeader
  field := forcedSleepMs
  write n := Nat.repr n.toNat
  read s := Text.readUInt64? (Text.trim s)
  mem_names := by simp [names]
  field_empty := rfl
  field_readHeader c h := by rw [readHeader_eq]
  filter_toHeaders c := c.filter_toHeaders.2.2.2.2.2
  read_write n := by rw [Text.trim_repr, Text.readUInt64?_repr]

theorem requestId_ofHeaders (c : Context) : (ofHeaders c.toHeaders).requestId = c.requestId :=
  requestIdPart.field_toHeaders c

theorem clock_ofHeaders (c : Context) : (ofHeaders c.toHeaders).clock = c.clock :=
  clockPart.field_toHeaders c

theorem index_ofHeaders (c : Context) : (ofHeaders c.toHeaders).index = c.index :=
  indexPart.field_toHeaders c

/-- A context arrives as it was sent: its headers, each once, may come in any order and with any
letters of their names in the other case, and any other headers may come with them. -/
theorem ofHeaders_of_perm (c : Context) (spell : String → String)
    (hspell : ∀ name ∈ names, (spell name).toLower = name) (foreign : List (String × String))
    (hforeign : ∀ h ∈ foreign, h.1.toLower ∉ names) {hs : List (String × String)}
    (hperm : hs.Perm ((c.toHeaders.map fun h => (spell h.1, h.2)) ++ foreign)) :
    ofHeaders hs = c := by
  apply Context.ext
  · exact requestIdPart.field_ofHeaders c spell hspell foreign hforeign hperm
  · exact generatedIdPart.field_ofHeaders c spell hspell foreign hforeign hperm
  · exact clockPart.field_ofHeaders c spell hspell foreign hforeign hperm
  · exact originClockPart.field_ofHeaders c spell hspell foreign hforeign hperm
  · exact indexPart.field_ofHeaders c spell hspell foreign hforeign hperm
  · exact forcedSleepPart.field_ofHeaders c spell hspell foreign hforeign hperm

/-- A context without clocks, with numbers at the ends of their ranges. -/
def clockless : Context where
  requestId := some "r-1"
  generatedId := some (-9223372036854775808)
  index := some "[[\"k\", 1]]"
  forcedSleepMs := some 18446744073709551615

/-- Its headers in upper case, in another order and among others. -/
def shouted : List (String × String) :=
  [("X-FILIBUSTER-FORCED-SLEEP", "18446744073709551615"), ("Content-Type", "text/plain"),
    ("X-FILIBUSTER-REQUEST-ID", "r-1"), ("X-FILIBUSTER-EXECUTION-INDEX", "[[\"k\", 1]]"),
    ("X-Filibuster-Instrumentation", "true"),
    ("X-FILIBUSTER-GENERATED-ID", "-9223372036854775808")]

theorem ofHeaders_of_perm_shouted : ofHeaders shouted = clockless := by
  have hupper : ∀ name ∈ names, name.toUpper.toLower = name := by decide +kernel
  have hforeign : ∀ h ∈ [("Content-Type", "text/plain"), ("X-Filibuster-Instrumentation", "true")],
      h.1.toLower ∉ names := by decide +kernel
  refine ofHeaders_of_perm clockless String.toUpper hupper _ hforeign ?_
  decide +kernel

end Context

end Faultline
