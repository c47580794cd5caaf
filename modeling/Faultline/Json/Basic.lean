import Faultline.Binary64
import Faultline.Entries

/-!
# JSON values

Values of JSON documents.  A whole number keeps its exact value within the 64-bit ranges and is
never the same as a number with a fraction part or an exponent; an object lists its members in
key order.  `same` is the equality of values: it differs from identity only for the two zeros
with a fraction part.
-/

namespace Faultline

/-- A whole number that fits a signed or an unsigned 64-bit word. -/
structure Whole where
  val : Int
  lower : -0x8000000000000000 ≤ val
  upper : val < 0x10000000000000000
  deriving DecidableEq

namespace Whole

instance : Inhabited Whole := ⟨⟨0, by decide, by decide⟩⟩

def ofInt? (i : Int) : Option Whole :=
  if h : -0x8000000000000000 ≤ i ∧ i < 0x10000000000000000 then some ⟨i, h.1, h.2⟩ else none

def ofUInt64 (n : UInt64) : Whole :=
  ⟨n.toNat, by omega, by have := n.toNat_lt; omega⟩

def ofInt64 (i : Int64) : Whole :=
  ⟨i.toInt, i.le_toInt, by have := i.toInt_lt; omega⟩

/-- The value where it fits an unsigned word. -/
def toUInt64? (n : Whole) : Option UInt64 :=
  if 0 ≤ n.val then some (UInt64.ofNat n.val.toNat) else none

/-- The value where it fits a signed word. -/
def toInt64? (n : Whole) : Option Int64 :=
  if n.val < 0x8000000000000000 then some (Int64.ofInt n.val) else none

theorem ext {m n : Whole} (h : m.val = n.val) : m = n := by
  cases m; cases n; cases h; rfl

@[simp] theorem toUInt64?_ofUInt64 (n : UInt64) : (ofUInt64 n).toUInt64? = some n := by
  simp [ofUInt64, toUInt64?]

@[simp] theorem toInt64?_ofInt64 (i : Int64) : (ofInt64 i).toInt64? = some i := by
  have h : i.toInt < 9223372036854775808 := i.toInt_lt
  simp [ofInt64, toInt64?, h]

end Whole

/-- A JSON value. -/
inductive Json where
  | null
  | bool (b : Bool)
  | int (n : Whole)
  | float (x : Binary64)
  | str (s : String)
  | arr (items : List Json)
  | obj (members : List (String × Json))
  deriving Inhabited

namespace Json

mutual

/-- Equality of values. -/
def same : Json → Json → Bool
  | null, null => true
  | bool b, bool c => b == c
  | int m, int n => m == n
  | float x, float y => x.same y
  | str s, str t => s == t
  | arr xs, arr ys => sameItems xs ys
  | obj ms, obj ns => sameMembers ms ns
  | _, _ => false

def sameItems : List Json → List Json → Bool
  | [], [] => true
  | x :: xs, y :: ys => same x y && sameItems xs ys
  | _, _ => false

def sameMembers : List (String × Json) → List (String × Json) → Bool
  | [], [] => true
  | (k, x) :: ms, (l, y) :: ns => k == l && same x y && sameMembers ms ns
  | _, _ => false

end

instance : BEq Json := ⟨same⟩

/-- An object with the given members; the last member of a name counts. -/
def object (members : List (String × Json)) : Json :=
  obj (Entries.ofPairs members)

def emptyObject : Json := obj []

def ofUInt64 (n : UInt64) : Json := int (Whole.ofUInt64 n)

def ofInt64 (i : Int64) : Json := int (Whole.ofInt64 i)

/-- A small natural number, such as a byte or a count. -/
def ofNat (n : Nat) : Json := ofUInt64 (UInt64.ofNat n)

def ofOption {α : Type} (write : α → Json) : Option α → Json
  | none => null
  | some a => write a

/-- The value of a member of an object. -/
def get? (j : Json) (k : String) : Option Json :=
  match j with
  | obj members => Entries.find? k members
  | _ => none

/-- An object with a member put in; other values are left alone. -/
def put (j : Json) (k : String) (v : Json) : Json :=
  match j with
  | obj members => obj (Entries.insert k v members)
  | j => j

/-- An object without a member; other values are left alone. -/
def remove (j : Json) (k : String) : Json :=
  match j with
  | obj members => obj (Entries.erase k members)
  | j => j

/-- The value at the end of a chain of member names. -/
def path? (j : Json) : List String → Option Json
  | [] => some j
  | k :: ks => (j.get? k).bind fun child => path? child ks

def str? : Json → Option String
  | str s => some s
  | _ => none

def bool? : Json → Option Bool
  | bool b => some b
  | _ => none

def uint64? : Json → Option UInt64
  | int n => n.toUInt64?
  | _ => none

def int64? : Json → Option Int64
  | int n => n.toInt64?
  | _ => none

def arr? : Json → Option (List Json)
  | arr items => some items
  | _ => none

def obj? : Json → Option (List (String × Json))
  | obj members => some members
  | _ => none

def isNull : Json → Bool
  | null => true
  | _ => false

@[simp] theorem get?_put_obj (k l : String) (v : Json) (ms : List (String × Json)) :
    ((obj ms).put k v).get? l = if l = k then some v else (obj ms).get? l :=
  Entries.find?_insert k l v ms

/-- An object of two members lists the smaller name first. -/
theorem object_pair {k l : String} (h : k < l) (v w : Json) :
    object [(k, v), (l, w)] = obj [(k, v), (l, w)] ∧
      object [(l, w), (k, v)] = obj [(k, v), (l, w)] := by
  have hnot : ¬ l < k := fun h' => String.lt_irrefl k (String.lt_trans h h')
  have hne : l ≠ k := fun h' => String.lt_irrefl k (h' ▸ h)
  simp only [object, Entries.ofPairs, List.foldl_cons, List.foldl_nil, Entries.insert, if_pos h,
    if_neg hnot, if_neg hne, and_self]

@[simp] theorem uint64?_ofUInt64 (n : UInt64) : (ofUInt64 n).uint64? = some n :=
  Whole.toUInt64?_ofUInt64 n

@[simp] theorem int64?_ofInt64 (i : Int64) : (ofInt64 i).int64? = some i :=
  Whole.toInt64?_ofInt64 i

end Json

end Faultline
