import Faultline.Pattern.CharSet
import Faultline.Pattern.Property.Ages
import Faultline.Pattern.Property.Categories
import Faultline.Pattern.Property.Listing
import Faultline.Pattern.Property.Scripts
import Faultline.Text.Numeral

/-!
# Character properties

Sets of characters by the name of a property.  Categories and scripts give every character one
value; properties that the standard derives from categories are derived in the same way, from the
few characters listed for them beside the categories.  A name that has no set here has none.
-/

namespace Faultline.Pattern.Property

/-- A code point, or two with a dash between them. -/
def readRange? (s : String) : Option (Nat × Nat) :=
  match s.splitOn "-" with
  | [a] => (Text.hexDigits? a.toList).map fun n => (n, n)
  | [a, b] => do return (← Text.hexDigits? a.toList, ← Text.hexDigits? b.toList)
  | _ => none

/-- The set written in some lines, with blanks between its ranges. -/
def read (lines : List String) : CharSet :=
  .ofRanges (lines.flatMap fun line => (line.splitOn " ").filterMap readRange?)

/-- The set of the first entry with a name. -/
def find? (name : String) (table : List (List String × List String)) : Option CharSet :=
  (table.find? fun e => e.1.contains name).map fun e => read e.2

/-! ### Categories -/

/-- The characters of a general category, by its short name. -/
def category (name : String) : CharSet :=
  (find? name categories).getD .empty

/-- The characters of several categories. -/
def ofCategories (names : List String) : CharSet :=
  .unionAll (names.map category)

def assigned : CharSet :=
  .unionAll (categories.map fun e => read e.2)

def unassigned : CharSet := assigned.complement

/-- The categories that a group of categories consists of, by the names of the group. -/
def groups : List (List String × List String) := [
  (["lc", "casedletter"], ["lu", "ll", "lt"]),
  (["l", "letter"], ["lu", "ll", "lt", "lm", "lo"]),
  (["m", "mark", "combiningmark"], ["mn", "mc", "me"]),
  (["n", "number"], ["nd", "nl", "no"]),
  (["p", "punct", "punctuation"], ["pc", "pd", "ps", "pe", "pi", "pf", "po"]),
  (["s", "symbol"], ["sm", "sc", "sk", "so"]),
  (["z", "separator"], ["zs", "zl", "zp"])]

/-- The characters of a general category, or of a group of them. -/
def category? (name : String) : Option CharSet :=
  match name with
  | "any" => some .all
  | "ascii" => some .ascii
  | "assigned" => some assigned
  | "cn" | "unassigned" => some unassigned
  | "c" | "other" => some ((ofCategories ["cc", "cf", "co"]).union unassigned)
  | name =>
    match groups.find? fun e => e.1.contains name with
    | some (_, names) => some (ofCategories names)
    | none => find? name categories

/-! ### Scripts -/

def script? (name : String) : Option CharSet :=
  find? name scripts

/-- The characters of a script, by its short name. -/
def script (name : String) : CharSet :=
  (script? name).getD .empty

/-- The characters that are used with a script: those that have it, unless their uses are listed,
and those with a use of it in the list. -/
def scriptUse? (name : String) : Option CharSet := do
  let (names, lines) ← scripts.find? fun e => e.1.contains name
  let uses := scriptUses.filter fun e => e.1.any names.contains
  let listed := CharSet.unionAll (scriptUses.map fun e => read e.2)
  return ((read lines).diff listed).union (.unionAll (uses.map fun e => read e.2))

/-! ### Ages -/

/-- The versions from the first one up to the one with a name. -/
def versionsUpTo? (name : String) :
    List (List String × List String) → Option (List (List String × List String))
  | [] => none
  | e :: es => if e.1.contains name then some [e] else (versionsUpTo? name es).map (e :: ·)

/-- The characters that are assigned in a version of the standard. -/
def age? (name : String) : Option CharSet :=
  (versionsUpTo? name ages).map fun es => .unionAll (es.map fun e => read e.2)

/-! ### Properties that a character has or has not -/

/-- The characters of a listed property, by its short name. -/
def ofListed (name : String) : CharSet :=
  (find? name listed).getD .empty

def blank : CharSet := ofListed "space"

def letter : CharSet := ofCategories ["lu", "ll", "lt", "lm", "lo"]

def alphabetic : CharSet :=
  .unionAll [letter, category "nl", ofListed "oalpha"]

def numeric : CharSet := ofCategories ["nd", "nl", "no"]

def alphanumeric : CharSet := alphabetic.union numeric

def lowercase : CharSet := (category "ll").union (ofListed "olower")

def uppercase : CharSet := (category "lu").union (ofListed "oupper")

def cased : CharSet := .unionAll [lowercase, uppercase, category "lt"]

def joinControl : CharSet := ofListed "joinc"

/-- Characters of words: letters with their marks, digits, and what joins them. -/
def word : CharSet :=
  .unionAll [alphabetic, ofCategories ["mn", "mc", "me", "nd", "pc"], joinControl]

/-- Characters of the grammar of patterns, which are in no identifier. -/
def patternChar : CharSet := (ofListed "patsyn").union (ofListed "patws")

def idStart : CharSet :=
  (CharSet.unionAll [letter, category "nl", ofListed "oids"]).diff patternChar

def idContinue : CharSet :=
  (CharSet.unionAll [idStart, ofCategories ["mn", "mc", "nd", "pc"], ofListed "oidc"]).diff
    patternChar

def graphemeExtend : CharSet :=
  (ofCategories ["mn", "me"]).union (ofListed "ogrext")

/-- Characters that are shown as something of their own. -/
def graphemeBase : CharSet :=
  (assigned.diff (ofCategories ["cc", "cf", "co", "zl", "zp"])).diff graphemeExtend

/-- Characters that are not shown where they are not known. -/
def defaultIgnorable : CharSet :=
  (CharSet.unionAll [ofListed "odi", category "cf", ofListed "vs"]).diff
    (.unionAll [blank, ofListed "pcm", ⟨[(0xFFF9, 0xFFFB), (0x13430, 0x1343F)]⟩])

def changesLowercased : CharSet :=
  (uppercase.union (category "lt")).diff (read alwaysUppercase)

def changesUppercased : CharSet :=
  (lowercase.union (category "lt")).diff (read alwaysLowercase)

def changesTitlecased : CharSet :=
  (changesUppercased.diff (read alwaysTitlecase)).union (.ofPoints [0x1C4, 0x1C7, 0x1CA, 0x1F1])

def changesFolded : CharSet :=
  (changesLowercased.diff ⟨[(0x13A0, 0x13F5)]⟩).union (read foldedLowercase)

/-- Punctuation in the midst of words and numbers. -/
def midLetter : CharSet := read ["3a b7 387 55f 5f4 2027 fe13 fe55 ff1a"]

def midNumLet : CharSet := read ["2e 2018-2019 2024 fe52 ff07 ff0e"]

/-- The characters with a property. -/
def binary? (name : String) : Option CharSet :=
  match name with
  | "alpha" | "alphabetic" => some alphabetic
  | "cased" => some cased
  | "ci" | "caseignorable" =>
    some (.unionAll [ofCategories ["mn", "me", "cf", "lm", "sk"], midLetter, midNumLet,
      .single '\''])
  | "cwcf" | "changeswhencasefolded" => some changesFolded
  | "cwcm" | "changeswhencasemapped" =>
    some (.unionAll [changesLowercased, changesUppercased, changesTitlecased])
  | "cwl" | "changeswhenlowercased" => some changesLowercased
  | "cwt" | "changeswhentitlecased" => some changesTitlecased
  | "cwu" | "changeswhenuppercased" => some changesUppercased
  | "di" | "defaultignorablecodepoint" => some defaultIgnorable
  | "grbase" | "graphemebase" => some graphemeBase
  | "grext" | "graphemeextend" => some graphemeExtend
  | "idc" | "idcontinue" => some idContinue
  | "ids" | "idstart" => some idStart
  | "lower" | "lowercase" => some lowercase
  | "math" => some ((category "sm").union (ofListed "omath"))
  | "upper" | "uppercase" => some uppercase
  | "xidc" | "xidcontinue" => some (idContinue.diff (read nonXidContinue))
  | "xids" | "xidstart" => some (idStart.diff (read nonXidStart))
  | name => find? name listed

end Faultline.Pattern.Property
