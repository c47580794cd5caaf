import Faultline.Json.Record
import Faultline.Mutation.Space
import Faultline.Table

/-!
# Catalogs of exceptions

Exceptions of data stores, one a mutation: the payload is ignored.
-/

namespace Faultline

/-- An exception by name, with details. -/
structure StoreException where
  name : String
  metadata : Table String
  deriving DecidableEq, Inhabited

namespace StoreException

def toJson (e : StoreException) : Json :=
  .object [("name", .str e.name),
    ("metadata", .obj (e.metadata.toList.map fun m => (m.1, .str m.2)))]

/-- A member of the details. -/
def detail? (m : String × Json) : Option (String × String) :=
  m.2.str?.map (m.1, ·)

def details? (j : Json) : Option (Table String) := do
  return .ofList (← (← j.obj?).mapM detail?)

def ofJson? (j : Json) : Option StoreException := do
  let r ← Record.ofJson? 2 j
  return ⟨← r.required "name" 0 Json.str?, ← r.defaulted "metadata" 1 details? Table.empty⟩

def redisTimeout : StoreException :=
  ⟨"io.lettuce.core.RedisCommandTimeoutException",
    .ofList [("cause", "Command timed out after 100 millisecond(s)"), ("code", "")]⟩

end StoreException

namespace Mutation

/-- One mutation for each exception. -/
def catalog (exceptions : List StoreException) : Space Json Json where
  count _ := exceptions.length
  mutate _ i := (exceptions.map StoreException.toJson).getD i .null
  unmutated j := j

end Mutation

end Faultline
