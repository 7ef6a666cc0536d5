import Backtrack.Regex.Property

/-!
# Breaks

What a character does to the places where one shown character, one word or one sentence ends and the
next begins. Each is a set by the plain name of what is done; what does nothing has no name.
-/

namespace Backtrack.Regex.Property

open Text

/-- Is the name one of these? -/
def isOneOf (name : List Char) (names : List String) : Bool :=
  names.contains (String.ofList name)

/-- The first set of a list that goes by a name. -/
def choose? (name : List Char) (sets : List (List String × (Unit → CharSet))) : Option CharSet :=
  (sets.find? fun entry => isOneOf name entry.1).map fun entry => entry.2 ()

/-- The characters of a script. -/
def script (names : List String) : CharSet :=
  unionOf scripts names

/-! ## §1. Shown characters -/

/-- What extends a shown character. -/
def extending : CharSet :=
  .union graphemeExtend (trait ["Emoji_Modifier"])

/-- What stands in front of a shown character as a part of it. -/
def prepended : CharSet :=
  .union (trait ["Prepended_Concatenation_Mark"])
    (codes "D4E 111C2-111C3 113D1 1193F 11941 11A3A 11A84-11A89 11D46 11F02")

/-- The Korean syllables without a closing consonant. -/
def openSyllables : CharSet :=
  .ofRanges ((List.range 399).map fun n => (0xAC00 + 28 * n, 0xAC00 + 28 * n))

/-- What a character does to the ends of shown characters. -/
def graphemeBreak? (name : List Char) : Option CharSet :=
  choose? name [
    (["cr"], fun _ => codes "D"), (["lf"], fun _ => codes "A"),
    (["control", "cn"], fun _ =>
      .diff (.union (category ["Zl", "Zp", "Cc", "Cf"]) (.inter unassigned defaultIgnorable))
        (.unions [prepended, extending, codes "A D 200D"])),
    (["extend", "ex"], fun _ => extending), (["zwj"], fun _ => codes "200D"),
    (["regionalindicator", "ri"], fun _ => trait ["Regional_Indicator"]),
    (["prepend", "pp"], fun _ => prepended),
    (["spacingmark", "sm"], fun _ =>
      .diff (.union (category ["Mc"]) (codes "E33 EB3")) (.union extending (codes
        ("102B-102C 1038 1062-1064 1067-106D 1083 1087-108C 108F 109A-109C 1A61 1A63-1A64 " ++
          "AA7B AA7D 11720-11721")))),
    (["l"], fun _ => codes "1100-115F A960-A97C"),
    (["v"], fun _ => codes "1160-11A7 D7B0-D7C6 16D63 16D67-16D6A"),
    (["t"], fun _ => codes "11A8-11FF D7CB-D7FB"),
    (["lv"], fun _ => openSyllables),
    (["lvt"], fun _ => .diff (codes "AC00-D7A3") openSyllables)]

/-! ## §2. Words -/

/-- What belongs to the character before it within words. -/
def wordExtending : CharSet :=
  .diff (.union extending (category ["Mc"])) (codes "200D")

/-- Syllables that make up words in the way of Katakana. -/
def katakana : CharSet :=
  .union (script ["Katakana"]) (codes "3031-3035 309B-309C 30A0 30FC FF70")

/-- Hebrew letters. -/
def hebrewLetters : CharSet :=
  .inter (script ["Hebrew"]) (category ["Lo"])

/-- The scripts that do not separate words. -/
def unspaced : CharSet :=
  script ["Thai", "Lao", "Myanmar", "Khmer", "Tai_Le", "New_Tai_Lue", "Tai_Tham", "Tai_Viet",
    "Ahom"]

/-- Letters of the scripts that separate words. -/
def wordLetters : CharSet :=
  .union (.diff alphabetic
      (.unions [trait ["Ideographic"], katakana, unspaced, script ["Hiragana"], extending,
        category ["Mc"], hebrewLetters]))
    (codes ("2C2-2C5 2D2-2D7 2DE-2DF 2E5-2EB 2ED 2EF-2FF 55A-55C 55E 58A 5F3 A708-A716 " ++
      "A720-A721 A789-A78A AB5B"))

/-- What a character does to the ends of words. -/
def wordBreak? (name : List Char) : Option CharSet :=
  choose? name [
    (["cr"], fun _ => codes "D"), (["lf"], fun _ => codes "A"),
    (["newline", "nl"], fun _ => codes "B-C 85 2028-2029"),
    (["extend"], fun _ => wordExtending), (["zwj"], fun _ => codes "200D"),
    (["regionalindicator", "ri"], fun _ => trait ["Regional_Indicator"]),
    (["format", "fo"], fun _ =>
      .diff (category ["Cf"]) (codes "200B-200D E0020-E007F")),
    (["katakana", "ka"], fun _ => katakana),
    (["hebrewletter", "hl"], fun _ => hebrewLetters),
    (["aletter", "le"], fun _ => wordLetters),
    (["singlequote", "sq"], fun _ => codes "27"), (["doublequote", "dq"], fun _ => codes "22"),
    (["midnumlet", "mb"], fun _ => codes "2E 2018-2019 2024 FE52 FF07 FF0E"),
    (["midletter", "ml"], fun _ => codes "3A B7 387 55F 5F4 2027 FE13 FE55 FF1A"),
    (["midnum", "mn"], fun _ =>
      codes "2C 3B 37E 589 60C-60D 66C 7F8 2044 FE10 FE14 FE50 FE54 FF0C FF1B"),
    (["numeric", "nu"], fun _ => .union (category ["Nd"]) (codes "66B")),
    (["extendnumlet", "ex"], fun _ => .union (category ["Pc"]) (codes "202F")),
    (["wsegspace"], fun _ => codes "20 1680 2000-2006 2008-200A 205F 3000")]

/-! ## §3. Sentences -/

/-- Stops that may end a sentence. -/
def stops : CharSet := codes "2E 2024 FE52 FF0E"

/-- Marks that end a sentence. -/
def sentenceEnds : CharSet :=
  .diff (trait ["Sentence_Terminal"]) stops

/-- What belongs to the character before it within sentences. -/
def sentenceExtending : CharSet :=
  .unions [graphemeExtend, category ["Mc"], codes "200D"]

/-- Small letters within sentences. -/
def sentenceLower : CharSet :=
  .diff lowercase (.union graphemeExtend (codes "10D0-10FA 10FD-10FF"))

/-- Capital letters within sentences. -/
def sentenceUpper : CharSet :=
  .diff (.union uppercase (category ["Lt"])) (codes "1C90-1CBA 1CBD-1CBF")

/-- What a character does to the ends of sentences. -/
def sentenceBreak? (name : List Char) : Option CharSet :=
  choose? name [
    (["cr"], fun _ => codes "D"), (["lf"], fun _ => codes "A"),
    (["sep", "se"], fun _ => codes "85 2028-2029"),
    (["extend", "ex"], fun _ => sentenceExtending),
    (["format", "fo"], fun _ => .diff (category ["Cf"]) (codes "200C-200D E0020-E007F")),
    (["sp"], fun _ => .diff (trait ["White_Space"]) (codes "A D 85 2028-2029")),
    (["lower", "lo"], fun _ => sentenceLower), (["upper", "up"], fun _ => sentenceUpper),
    (["oletter", "le"], fun _ =>
      .diff (.union alphabetic (codes "5F3"))
        (.unions [sentenceLower, sentenceUpper, sentenceExtending])),
    (["numeric", "nu"], fun _ => .union (category ["Nd"]) (codes "66B-66C")),
    (["aterm", "at"], fun _ => stops), (["sterm", "st"], fun _ => sentenceEnds),
    (["scontinue", "sc"], fun _ =>
      codes ("2C-2D 3A-3B 37E 55D 60C-60D 7F8 1802 1808 2013-2014 3001 FE10-FE11 FE13-FE14 " ++
        "FE31-FE32 FE50-FE51 FE54-FE55 FE58 FE63 FF0C-FF0D FF1A-FF1B FF64")),
    (["close", "cl"], fun _ =>
      .diff (.union (category ["Ps", "Pe", "Pi", "Pf"])
          (codes "22 27 275B-2760 2E00-2E01 2E06-2E08 2E0B 1F676-1F678"))
        (.union stops sentenceEnds))]

/-! ## §4. Properties by name -/

/-- The set of a property that has no value, by its name. Three short names are those of categories
before they are those of anything else. -/
def named? (name : List Char) : Option CharSet :=
  let trait :=
    if isOneOf name ["cf", "sc", "lc"] then none else trait? name
  (trait.or (category? name)).or (script? name)

/-- The set of a property that has a value, by the names of both. -/
def valued? (name value : List Char) : Option CharSet :=
  match String.ofList name with
  | "generalcategory" | "gc" => category? value
  | "script" | "sc" => script? value
  | "scriptextensions" | "scx" => scriptExtension? value
  | "age" => age? value
  | "graphemeclusterbreak" | "gcb" => graphemeBreak? value
  | "wordbreak" | "wb" => wordBreak? value
  | "sentencebreak" | "sb" => sentenceBreak? value
  | _ => none

/-- A name as it counts in an expression, where it may begin with a word that means nothing. What
would be left of one name is kept apart from a name that is as short. -/
def spokenName (name : List Char) : List Char :=
  match name with
  | a :: b :: rest =>
    if a.toLower = 'i' && b.toLower = 's' then
      let plain := plainName rest
      if plain = ['c'] then ['i', 's', 'c'] else plain
    else plainName name
  | _ => plainName name

/-- Splits a text at the first place where another text stands in it. -/
def splitAt? (mark : List Char) : List Char → Option (List Char × List Char)
  | [] => none
  | c :: rest =>
    match Text.after? mark (c :: rest) with
    | some behind => some ([], behind)
    | none => (splitAt? mark rest).map fun (front, behind) => (c :: front, behind)

/-- The set of a property as it is written in an expression: a name, or a name and a value. The
truth value says that it is written as what a character must not have. -/
def read? (text : List Char) : Option (Bool × CharSet) :=
  let set? (mark : List Char) : Option (Option CharSet) :=
    (splitAt? mark text).map fun (name, value) => valued? (spokenName name) (spokenName value)
  match set? ['!', '='], set? [':'], set? ['='] with
  | some set, _, _ => set.map (true, ·)
  | _, some set, _ => set.map (false, ·)
  | _, _, some set => set.map (false, ·)
  | _, _, _ => (named? (spokenName text)).map (false, ·)

end Backtrack.Regex.Property
