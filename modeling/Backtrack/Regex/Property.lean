import Backtrack.Regex.CharSet
import Backtrack.Text.Age
import Backtrack.Text.Category
import Backtrack.Text.Script
import Backtrack.Text.ScriptExtension
import Backtrack.Text.Split
import Backtrack.Text.Trait

/-!
# Properties of characters

The sets of characters that share a property: a general category, a script, an age, or a trait. Some
traits are tables, and the others follow from categories and tables.
-/

namespace Backtrack.Regex.Property

open Text

/-! ## §1. Tables as sets -/

/-- The set of a row of a table. -/
def ofRow (row : NamedRanges) : CharSet :=
  .ofRanges row.ranges

/-- The set of the row that is called by a plain name. -/
def find? (rows : List NamedRanges) (name : List Char) : Option CharSet :=
  (rows.find? (·.isCalled name)).map ofRow

/-- The set of the rows that are called by some names. -/
def unionOf (rows : List NamedRanges) (names : List String) : CharSet :=
  .unions (names.filterMap fun name => find? rows (plainName name.toList))

/-- The set of some code points, written as in a table. -/
def codes (text : String) : CharSet :=
  .ofRanges (.ofText text)

/-! ## §2. Categories -/

/-- The characters of some categories. -/
def category (names : List String) : CharSet :=
  unionOf categories names

/-- What is in no category. -/
def unassigned : CharSet :=
  .complement (.unions (categories.map ofRow))

/-- The set of a category or of a group of them, by a plain name. -/
def category? (name : List Char) : Option CharSet :=
  match String.ofList name with
  | "any" => some .any
  | "ascii" => some (.range 0 0x7F)
  | "assigned" => some (.complement unassigned)
  | "unassigned" | "cn" => some unassigned
  | "other" | "c" => some (.union unassigned (category ["Cc", "Cf", "Co"]))
  | _ =>
    let isCalled (group : List String × List String) : Bool :=
      group.1.any fun known => plainName known.toList = name
    match categoryGroups.find? isCalled with
    | some group => some (category group.2)
    | none => find? categories name

/-! ## §3. Scripts and ages -/

/-- The set of a script by a plain name. -/
def script? (name : List Char) : Option CharSet :=
  find? scripts name

/-- The characters that a script uses, by a plain name: its own, but of those that a few scripts use
the ones that it is said to use. -/
def scriptExtension? (name : List Char) : Option CharSet := do
  let script ← scripts.find? (·.isCalled name)
  let uses (codes : String) : Bool :=
    (splitOn ' ' codes.toList).any fun code => script.names.contains (String.ofList code)
  let shared (rows : List (String × String)) : CharSet := .unions (rows.map (codes ·.1))
  return .union (.diff (ofRow script) (shared scriptExtensions))
    (shared (scriptExtensions.filter (uses ·.2)))

/-- What had a meaning in a version, by the plain name of the version. -/
def age? (name : List Char) : Option CharSet :=
  (ages.findIdx? (·.isCalled name)).map fun last => .unions ((ages.take (last + 1)).map ofRow)

/-! ## §4. Traits -/

/-- The characters with some of the traits that are tables. -/
def trait (names : List String) : CharSet :=
  unionOf traits names

/-- Small letters. -/
def lowercase : CharSet := .union (category ["Ll"]) (trait ["Other_Lowercase"])

/-- Capital letters. -/
def uppercase : CharSet := .union (category ["Lu"]) (trait ["Other_Uppercase"])

/-- Letters that have a case. -/
def cased : CharSet := .unions [lowercase, uppercase, category ["Lt"]]

/-- What makes up words as letters do. -/
def alphabetic : CharSet :=
  .unions [category ["Lt", "Lm", "Lo", "Nl"], lowercase, uppercase, trait ["Other_Alphabetic"]]

/-- What does not end a word in which the case of letters is looked at. -/
def caseIgnorable : CharSet :=
  .union (category ["Mn", "Me", "Cf", "Lm", "Sk"])
    (codes "27 2E 3A B7 387 55F 5F4 2018-2019 2024 2027 FE13 FE52 FE55 FF07 FF0E FF1A")

/-- What extends the character before it. -/
def graphemeExtend : CharSet :=
  .union (category ["Me", "Mn"]) (trait ["Other_Grapheme_Extend"])

/-- What stands by itself. -/
def graphemeBase : CharSet :=
  .complement (.unions [category ["Cc", "Cf", "Co", "Zl", "Zp"], unassigned, graphemeExtend])

/-- What shows nothing where it is not supported. -/
def defaultIgnorable : CharSet :=
  .diff
    (.union (trait ["Other_Default_Ignorable_Code_Point", "Variation_Selector"]) (category ["Cf"]))
    (.union (trait ["White_Space", "Prepended_Concatenation_Mark"])
      (codes "FFF9-FFFB 13430-13440"))

/-- What identifiers do not hold, because it belongs to the syntax of texts. -/
def patternSyntax : CharSet :=
  trait ["Pattern_Syntax", "Pattern_White_Space"]

/-- What identifiers start with. -/
def identifierStart : CharSet :=
  .diff (.union (category ["Lu", "Ll", "Lt", "Lm", "Lo", "Nl"]) (trait ["Other_ID_Start"]))
    patternSyntax

/-- What identifiers go on with. -/
def identifierContinue : CharSet :=
  .diff (.unions [category ["Mn", "Mc", "Nd", "Pc"], trait ["Other_ID_Continue"], identifierStart])
    patternSyntax

/-- What no identifier holds that is to stay one when it is normalised. -/
def changedByNormalisation : CharSet :=
  codes "37A 309B-309C FC5E-FC63 FDFA-FDFB FE70-FE7E/"

/-- The traits that follow from other properties, by their plain names. -/
def derivedTrait? (name : List Char) : Option CharSet :=
  match String.ofList name with
  | "lowercase" | "lower" => some lowercase
  | "uppercase" | "upper" => some uppercase
  | "cased" => some cased
  | "alphabetic" | "alpha" => some alphabetic
  | "caseignorable" | "ci" => some caseIgnorable
  | "graphemeextend" | "grext" => some graphemeExtend
  | "graphemebase" | "grbase" => some graphemeBase
  | "defaultignorablecodepoint" | "di" => some defaultIgnorable
  | "math" => some (.union (category ["Sm"]) (trait ["Other_Math"]))
  | "idstart" | "ids" => some identifierStart
  | "idcontinue" | "idc" => some identifierContinue
  | "xidstart" | "xids" =>
    some (.diff identifierStart (.union changedByNormalisation (codes "E33 EB3 FF9E-FF9F")))
  | "xidcontinue" | "xidc" => some (.diff identifierContinue changedByNormalisation)
  | _ => none

/-- The set of a trait by a plain name. -/
def trait? (name : List Char) : Option CharSet :=
  (derivedTrait? name).or (find? traits name)

end Backtrack.Regex.Property
