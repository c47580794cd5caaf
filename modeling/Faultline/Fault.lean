import Faultline.Error
import Faultline.Mutation.Kind
import Faultline.Table

/-!
# Faults and decisions

What a decision source may ask for in place of a call's own outcome: an exception to raise,
metadata of a failure, a value to return, or a transformer to apply to the reference.  A fault
travels as an object with one member, whose name is the fault's kind; a decision adds the id under
which the call was registered.
-/

namespace Faultline

/-- An exception to raise, with details by name. -/
structure ForcedException where
  name : String
  metadata : Table Json
  deriving Inhabited

/-- A value to return in place of the call's own. -/
structure ByzantineFault where
  type : String
  value : Json
  deriving Inhabited

/-- A transformer to apply, from an accumulator or from its start. -/
structure TransformerFault where
  transformer : TransformerKind
  accumulator : Json
  deriving Inhabited

namespace ForcedException

def text? (e : ForcedException) (key : String) : Option String :=
  (e.metadata.get? key).bind Json.str?

/-- A truth value, which may be given by its word. -/
def truth? (e : ForcedException) (key : String) : Option Bool :=
  match e.metadata.get? key with
  | some (.bool b) => some b
  | some (.str s) => Text.readBool? s
  | _ => none

/-- The latency to force, which may be given by its numeral. -/
def sleepMs? (e : ForcedException) : Option UInt64 :=
  match e.metadata.get? "sleep" with
  | some (.int n) => n.toUInt64?
  | some (.str s) => Text.readUInt64? s
  | _ => none

def toJson (e : ForcedException) : Json :=
  .object [("name", .str e.name), ("metadata", .obj e.metadata.toList)]

def ofJson? (j : Json) : Option ForcedException := do
  let r ← Record.ofJson? 2 j
  return ⟨← r.required "name" 0 Json.str?,
    ← r.defaulted "metadata" 1 (fun m => m.obj?.map Table.ofList) Table.empty⟩

def same (e f : ForcedException) : Bool :=
  e.name == f.name && Json.sameMembers e.metadata.toList f.metadata.toList

end ForcedException

namespace ByzantineFault

def toJson (b : ByzantineFault) : Json :=
  .object [("type", .str b.type), ("value", b.value)]

def ofJson? (j : Json) : Option ByzantineFault := do
  let r ← Record.ofJson? 2 j
  return ⟨← r.required "type" 0 Json.str?, ← r.defaulted "value" 1 some .null⟩

end ByzantineFault

namespace TransformerFault

def toJson (t : TransformerFault) : Json :=
  .object [("type", t.transformer.toJson), ("accumulator", t.accumulator)]

def ofJson? (j : Json) : Option TransformerFault := do
  let r ← Record.ofJson? 2 j
  return ⟨← r.required "type" 0 TransformerKind.ofJson?, ← r.defaulted "accumulator" 1 some .null⟩

end TransformerFault

/-- What happens to a call in place of its own outcome. -/
inductive Fault where
  | exception (e : ForcedException)
  | failure (metadata : Json)
  | byzantine (b : ByzantineFault)
  | transformer (t : TransformerFault)
  deriving Inhabited

namespace Fault

/-- The kinds in the order in which an object is searched for them. -/
def kinds : List String :=
  ["forced_exception", "failure_metadata", "byzantine_fault", "transformer_fault"]

def kind : Fault → String
  | exception _ => "forced_exception"
  | failure _ => "failure_metadata"
  | byzantine _ => "byzantine_fault"
  | transformer _ => "transformer_fault"

/-- What stands under the kind. -/
def body : Fault → Json
  | exception e => e.toJson
  | failure metadata => metadata
  | byzantine b => b.toJson
  | transformer t => t.toJson

def toObject (f : Fault) : Json :=
  .obj [(f.kind, f.body)]

/-- The fault of a kind with what stands under it. -/
def ofBody? (kind : String) (j : Json) : Option Fault :=
  if kind = "forced_exception" then (ForcedException.ofJson? j).map exception
  else if kind = "failure_metadata" then some (failure j)
  else if kind = "byzantine_fault" then (ByzantineFault.ofJson? j).map byzantine
  else if kind = "transformer_fault" then (TransformerFault.ofJson? j).map transformer
  else none

/-- The fault of an object with one member. -/
def ofJson? : Json → Option Fault
  | .obj [(kind, body)] => ofBody? kind body
  | _ => none

/-- The first kind that is a member of the object decides; other members are passed over. -/
def ofObject (j : Json) : Except Error (Option Fault) :=
  match kinds.findSome? fun k => (j.get? k).map (k, ·) with
  | none => .ok none
  | some (k, body) =>
    match ofBody? k body with
    | some f => .ok (some f)
    | none => .error (.serialization "")

/-- Equality of faults, up to equality of values. -/
def same : Fault → Fault → Bool
  | exception e, exception f => e.same f
  | failure m, failure n => m == n
  | byzantine b, byzantine c => b.type == c.type && b.value == c.value
  | transformer t, transformer u => t.transformer == u.transformer && t.accumulator == u.accumulator
  | _, _ => false

/-- Equality where there may be no fault. -/
def sameOption : Option Fault → Option Fault → Bool
  | none, none => true
  | some f, some g => f.same g
  | _, _ => false

/-- A fault without an accumulator: the transformer walks from its start. -/
def ofTransformer (k : TransformerKind) : Fault :=
  transformer ⟨k, .null⟩

end Fault

/-- The answer to a registration: its id, and the fault decided for the call. -/
structure Decision where
  generatedId : Int64
  fault : Option Fault
  deriving Inhabited

namespace Decision

def ofJson (body : Json) : Except Error Decision := do
  let some id := (body.get? "generated_id").bind Json.int64?
    | throw (.malformedResponse (.missingGeneratedId body))
  return ⟨id, ← Fault.ofObject body⟩

def toJson (d : Decision) : Json :=
  let fault := match d.fault with
    | some f => f.toObject
    | none => Json.emptyObject
  fault.put "generated_id" (.ofInt64 d.generatedId)

def same (d e : Decision) : Bool :=
  d.generatedId == e.generatedId && Fault.sameOption d.fault e.fault

end Decision

/-- The answer to a report: the execution index under which the call is known from now on. -/
structure Receipt where
  index : Option String
  deriving DecidableEq, Inhabited

namespace Receipt

def ofJson? (j : Json) : Option Receipt := do
  let r ← Record.ofJson? 1 j
  return ⟨← r.defaulted "execution_index" 0 (Json.nullable Json.str?) none⟩

end Receipt

end Faultline
