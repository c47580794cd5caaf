import Faultline.Json.Record
import Faultline.Json.Parser
import Faultline.Text.Numeral

/-!
# Kinds of transformers and payloads

The transformers by the names under which they travel, the kinds of payloads that a registry
tells apart, and the transformer that fits each of them.
-/

namespace Faultline

/-- The kinds of transformers. -/
inductive TransformerKind where
  | text
  | textBytes
  | bitBytes
  | booleanText
  | booleanBytes
  | integerText
  | unexpectedText
  | unexpectedBytes
  | redisTimeout
  | storeException
  | objectText
  | objectBytes
  deriving DecidableEq, Repr, Inhabited

namespace TransformerKind

def all : List TransformerKind :=
  [text, textBytes, bitBytes, booleanText, booleanBytes, integerText, unexpectedText,
    unexpectedBytes, redisTimeout, storeException, objectText, objectBytes]

def name : TransformerKind → String
  | text => "StringTransformer"
  | textBytes => "StringAsByteArrTransformer"
  | bitBytes => "BitInByteArrTransformer"
  | booleanText => "BooleanAsStringTransformer"
  | booleanBytes => "BooleanAsByteArrTransformer"
  | integerText => "IntegerAsStringTransformer"
  | unexpectedText => "StringByzantineTransformer"
  | unexpectedBytes => "ByteArrByzantineTransformer"
  | redisTimeout => "RedisTimeoutExceptionTransformer"
  | storeException => "DbExceptionTransformer"
  | objectText => "JsonObjectAsStringTransformer"
  | objectBytes => "JsonObjectAsByteArrTransformer"

/-- The kind of a name; transformers of object texts have a second, shorter name. -/
def ofName? (s : String) : Option TransformerKind :=
  if s = "JsonObjectTransformer" then some objectText else all.find? fun k => k.name == s

def ofJson? (j : Json) : Option TransformerKind :=
  j.word?.bind ofName?

def toJson (k : TransformerKind) : Json :=
  .str k.name

/-- Whether a transformer of the kind needs nothing but its kind. -/
def isSelfContained (k : TransformerKind) : Bool :=
  k != storeException

theorem ofName?_name (k : TransformerKind) : ofName? k.name = some k := by
  cases k <;> decide

end TransformerKind

/-- The kinds of payloads. -/
inductive PayloadKind where
  | text
  | booleanText
  | integerText
  | objectText
  | bytes
  | boolean
  | integer
  | object
  | other
  deriving DecidableEq, Repr, Inhabited

namespace PayloadKind

def all : List PayloadKind :=
  [text, booleanText, integerText, objectText, bytes, boolean, integer, object, other]

def name : PayloadKind → String
  | text => "Text"
  | booleanText => "BooleanText"
  | integerText => "IntegerText"
  | objectText => "ObjectText"
  | bytes => "Bytes"
  | boolean => "Boolean"
  | integer => "Integer"
  | object => "Object"
  | other => "Other"

def ofName? (s : String) : Option PayloadKind :=
  all.find? fun k => k.name == s

/-- What a text spells: a truth value, an integer, an object or nothing of these. -/
def ofText (s : String) : PayloadKind :=
  if (Text.readBool? s).isSome then booleanText
  else if (Text.readInt64? s).isSome then integerText
  else if ((Json.parse? s).bind Json.obj?).isSome then objectText
  else text

/-- A number that is a byte. -/
def isByte (j : Json) : Bool :=
  match j.uint64? with
  | some n => n ≤ 255
  | none => false

def ofValue : Json → PayloadKind
  | .str s => ofText s
  | .bool _ => boolean
  | .int _ => integer
  | .obj _ => object
  | .arr items => if !items.isEmpty && items.all isByte then bytes else other
  | _ => other

/-- The transformer that fits payloads of the kind. -/
def defaultTransformer : PayloadKind → Option TransformerKind
  | text => some .text
  | booleanText => some .booleanText
  | integerText => some .integerText
  | objectText => some .objectText
  | bytes => some .textBytes
  | boolean | integer | object | other => none

end PayloadKind

end Faultline
