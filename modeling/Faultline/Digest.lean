/-!
# Digests

The 256-bit tree digest of a text in lower case hexadecimal.  The text's bytes are cut into
chunks of 1024 bytes and those into blocks of 64; the blocks of a chunk are compressed one after
the other, and the chunks are the leaves of a binary tree in which neighbours are paired until one
node is left.  The last lemmas say what a reader of names relies on: a digest has 64 characters,
all of them hexadecimal digits.
-/

namespace Faultline.Digest

/-- Eight words that go from one compression to the next. -/
abbrev Chain := Vector UInt32 8

/-- One block of message, as words. -/
abbrev Block := Vector UInt32 16

def initial : Chain :=
  #v[0x6A09E667, 0xBB67AE85, 0x3C6EF372, 0xA54FF53A, 0x510E527F, 0x9B05688C, 0x1F83D9AB, 0x5BE0CD19]

/-- Where each word of the next round's message comes from. -/
def schedule : Vector (Fin 16) 16 :=
  #v[2, 6, 3, 10, 7, 0, 4, 13, 1, 11, 12, 5, 9, 14, 15, 8]

def permute (m : Block) : Block :=
  schedule.map fun i => m[i]

def rotateRight (x : UInt32) (n : UInt32) : UInt32 :=
  (x >>> n) ||| (x <<< (32 - n))

/-- Four words of the state mixed with two of the message. -/
def quarter (v : Block) (a b c d : Fin 16) (x y : UInt32) : Block :=
  let va := v[a] + v[b] + x
  let vd := rotateRight (v[d] ^^^ va) 16
  let vc := v[c] + vd
  let vb := rotateRight (v[b] ^^^ vc) 12
  let va := va + vb + y
  let vd := rotateRight (vd ^^^ va) 8
  let vc := vc + vd
  let vb := rotateRight (vb ^^^ vc) 7
  (((v.set a va).set b vb).set c vc).set d vd

/-- The columns of the state, then its diagonals. -/
def round (v m : Block) : Block :=
  let v := quarter v 0 4 8 12 m[0] m[1]
  let v := quarter v 1 5 9 13 m[2] m[3]
  let v := quarter v 2 6 10 14 m[4] m[5]
  let v := quarter v 3 7 11 15 m[6] m[7]
  let v := quarter v 0 5 10 15 m[8] m[9]
  let v := quarter v 1 6 11 12 m[10] m[11]
  let v := quarter v 2 7 8 13 m[12] m[13]
  quarter v 3 4 9 14 m[14] m[15]

def rounds : Nat → Block → Block → Block
  | 0, v, _ => v
  | n + 1, v, m => rounds n (round v m) (permute m)

def chunkStart : UInt32 := 1
def chunkEnd : UInt32 := 2
def parentNode : UInt32 := 4
def rootNode : UInt32 := 8

/-- A compression still to be done: what it starts from, its block, the number of its chunk, how
many bytes the block holds and what it is. -/
structure Node where
  chain : Chain
  block : Block
  counter : UInt64
  size : UInt32
  flags : UInt32

/-- The first half of the compressed state. -/
def Node.compress (n : Node) (extra : UInt32) : Chain :=
  let v : Block := n.chain ++
    #v[initial[0], initial[1], initial[2], initial[3], n.counter.toUInt32,
      (n.counter >>> 32).toUInt32, n.size, n.flags ||| extra]
  let v := rounds 7 v n.block
  Vector.ofFn fun (i : Fin 8) => v.get ⟨i.val, by omega⟩ ^^^ v.get ⟨i.val + 8, by omega⟩

/-- The little-endian word of up to four bytes. -/
def wordOf (bytes : List UInt8) : UInt32 :=
  bytes.foldr (fun b w => (w <<< 8) ||| b.toUInt32) 0

def wordsOf : Nat → List UInt8 → List UInt32
  | 0, _ => []
  | n + 1, bytes => wordOf (bytes.take 4) :: wordsOf n (bytes.drop 4)

/-- Up to 64 bytes as a block, with zeros behind them. -/
def blockOf (bytes : List UInt8) : Block :=
  let words := (wordsOf 16 bytes).toArray
  Vector.ofFn fun i => words.getD i.val 0

/-- The last compression of a chunk whose blocks so far ended in `chain`. -/
def chunkNode (counter : UInt64) : Nat → Chain → UInt32 → List UInt8 → Node
  | 0, chain, start, bytes => ⟨chain, blockOf bytes, counter, 0, start ||| chunkEnd⟩
  | fuel + 1, chain, start, bytes =>
    match bytes.drop 64 with
    | [] => ⟨chain, blockOf bytes, counter, UInt32.ofNat bytes.length, start ||| chunkEnd⟩
    | rest =>
      let node : Node := ⟨chain, blockOf (bytes.take 64), counter, 64, start⟩
      chunkNode counter fuel (node.compress 0) 0 rest

/-- The chunks of a message, of which there is at least one. -/
def chunkNodes : Nat → UInt64 → List UInt8 → List Node
  | 0, _, _ => []
  | fuel + 1, counter, bytes =>
    let node := chunkNode counter 16 initial chunkStart (bytes.take 1024)
    match bytes.drop 1024 with
    | [] => [node]
    | rest => node :: chunkNodes fuel (counter + 1) rest

/-- Two neighbours under one node. -/
def pair (left right : Node) : Node :=
  ⟨initial, left.compress 0 ++ right.compress 0, 0, 64, parentNode⟩

def pairUp : List Node → List Node
  | a :: b :: r => pair a b :: pairUp r
  | r => r

/-- Neighbours paired again and again, down to one node. -/
def tree : Nat → List Node → Option Node
  | 0, ns => ns.head?
  | fuel + 1, ns =>
    match ns with
    | [n] => some n
    | ns => tree fuel (pairUp ns)

/-- The words of a message's digest. -/
def words (bytes : List UInt8) : Chain :=
  let nodes := chunkNodes (bytes.length / 1024 + 1) 0 bytes
  match tree nodes.length nodes with
  | some n => n.compress rootNode
  | none => initial

/-- A digit of a lower case hexadecimal numeral. -/
def hexDigit (n : Fin 16) : Char :=
  if n.val < 10 then Char.ofNat (48 + n.val) else Char.ofNat (87 + n.val)

/-- The bytes of a word from the lowest up, two digits each. -/
def wordChars (w : UInt32) : List Char :=
  ([4, 0, 12, 8, 20, 16, 28, 24] : List UInt32).map fun shift =>
    hexDigit (Fin.ofNat 16 (w >>> shift).toNat)

def digestChars (w : Chain) : List Char :=
  w.toList.flatMap wordChars

/-- The digest of a text. -/
def ofText (s : String) : String :=
  String.ofList (digestChars (words s.toUTF8.data.toList))

/-- The characters that digests are made of. -/
def isHex (c : Char) : Bool :=
  ('0' ≤ c && c ≤ '9') || ('a' ≤ c && c ≤ 'f')

theorem isHex_hexDigit (n : Fin 16) : isHex (hexDigit n) = true := by
  revert n; decide

theorem isHex_of_mem_digestChars {w : Chain} {c : Char} (h : c ∈ digestChars w) :
    isHex c = true := by
  obtain ⟨x, -, hx⟩ := List.mem_flatMap.1 h
  obtain ⟨shift, -, rfl⟩ := List.mem_map.1 hx
  exact isHex_hexDigit _

theorem length_digestChars (w : Chain) : (digestChars w).length = 64 := by
  have each : ∀ l : List UInt32, (l.flatMap wordChars).length = 8 * l.length := by
    intro l
    induction l with
    | nil => rfl
    | cons x r ih => simp [wordChars] at ih ⊢; omega
  simp [digestChars, each]

/-- A digest has 64 characters. -/
theorem length_ofText (s : String) : (ofText s).length = 64 := by
  simp [ofText, length_digestChars]

/-- A digest holds hexadecimal digits only. -/
theorem isHex_of_mem_ofText {s : String} {c : Char} (h : c ∈ (ofText s).toList) :
    isHex c = true :=
  isHex_of_mem_digestChars (by simpa [ofText] using h)

end Faultline.Digest
