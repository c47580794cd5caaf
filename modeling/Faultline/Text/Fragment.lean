/-!
# Fragments of texts

Runs of characters that stand somewhere in a text.  `occurs` asks for one; `longestCommon` is the
longest run that two texts share, and of several such runs the one that starts first in the first
text.  It is found from the back: for each place of the first text, `commonLengths` holds how far
the text from there agrees with every tail of the second.
-/

namespace Faultline.Text

/-- Whether the characters stand somewhere in a list, one after the other. -/
def occursIn (fragment : List Char) : List Char → Bool
  | [] => fragment.isEmpty
  | c :: r => fragment.isPrefixOf (c :: r) || occursIn fragment r

/-- Whether a text stands somewhere in another. -/
def occurs (fragment text : String) : Bool :=
  occursIn fragment.toList text.toList

/-- How far a list with `c` in front agrees with each tail of a second list, from how far the list
behind `c` does. -/
def extendLengths (c : Char) : List Char → List Nat → List Nat
  | d :: ds, _ :: n :: ns => (if c = d then n + 1 else 0) :: extendLengths c ds (n :: ns)
  | _, _ => [0]

/-- How far a list agrees with each tail of a second one, the second one itself first. -/
def commonLengths (bs : List Char) : List Char → List Nat
  | [] => List.replicate (bs.length + 1) 0
  | c :: r => extendLengths c bs (commonLengths bs r)

/-- The lengths for a list, with the longest common run found in it. -/
def scanCommon (bs : List Char) : List Char → List Nat × List Char
  | [] => (List.replicate (bs.length + 1) 0, [])
  | c :: r =>
    let (lengths, best) := scanCommon bs r
    let lengths := extendLengths c bs lengths
    let longest := lengths.foldl max 0
    (lengths, if best.length ≤ longest then (c :: r).take longest else best)

/-- The longest run of characters of both lists, the first such run of the first list. -/
def longestCommonRun (cs bs : List Char) : List Char :=
  (scanCommon bs cs).2

def longestCommon (s t : String) : String :=
  String.ofList (longestCommonRun s.toList t.toList)

theorem occursIn_iff (fragment cs : List Char) :
    occursIn fragment cs = true ↔ fragment <:+: cs := by
  induction cs with
  | nil => simp [occursIn]
  | cons c r ih => simp [occursIn, ih, List.infix_cons_iff]

theorem occurs_iff (fragment text : String) :
    occurs fragment text = true ↔ fragment.toList <:+: text.toList :=
  occursIn_iff fragment.toList text.toList

theorem scanCommon_fst (bs cs : List Char) : (scanCommon bs cs).1 = commonLengths bs cs := by
  induction cs with
  | nil => rfl
  | cons c r ih => simp [scanCommon, commonLengths, ih]

end Faultline.Text
