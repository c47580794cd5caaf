import Faultline.Transformer

/-!
# Registries

Which transformer is used for which kind of payload, and the exceptions that data stores raise.
A fresh registry has the transformers that fit; later registrations replace earlier ones.
-/

namespace Faultline

/-- Transformers by payload kind, and the catalog of exceptions. -/
structure Registry where
  byPayload : PayloadKind → Option TransformerKind
  exceptions : List StoreException

namespace Registry

def default : Registry := ⟨PayloadKind.defaultTransformer, []⟩

instance : Inhabited Registry := ⟨default⟩

def register (r : Registry) (p : PayloadKind) (k : TransformerKind) : Registry :=
  { r with byPayload := fun q => if q = p then some k else r.byPayload q }

def addException (r : Registry) (e : StoreException) : Registry :=
  { r with exceptions := r.exceptions ++ [e] }

/-- A transformer of a kind; one that walks the catalog needs an exception in it. -/
def create (r : Registry) (k : TransformerKind) : Except Error Transformer :=
  if !k.isSelfContained && r.exceptions.isEmpty then .error (.transformer .emptyCatalog)
  else .ok (.make r.exceptions k)

/-- The transformer registered for a value's kind of payload. -/
def forPayload (r : Registry) (value : Json) : Except Error Transformer :=
  let p := PayloadKind.ofValue value
  match r.byPayload p with
  | some k => r.create k
  | none => .error (.transformer (.unregistered p.name value))

@[simp] theorem byPayload_register (r : Registry) (p q : PayloadKind) (k : TransformerKind) :
    (r.register p k).byPayload q = if q = p then some k else r.byPayload q := rfl

end Registry

end Faultline
