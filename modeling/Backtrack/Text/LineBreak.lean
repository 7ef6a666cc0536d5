import Backtrack.Text.LineBreak.Class

/-!
# Line breaks

Where a line of text may end. The text is read once from left to right; what has to be remembered of
it is the class that the next character meets, whether blanks stand between, and three facts about
longer stretches: that a joiner stands directly in front, that a hyphen follows a Hebrew letter, and
that an odd number of letters of flags precede.
-/

namespace Backtrack.Text

/-! ## §1. What precedes -/

/-- What stands in front of a place in a text. -/
structure Preceding where
  /-- The class of the last character, blanks and the marks that combine with it apart. -/
  base : Option BreakClass := none
  /-- Are there blanks behind that character? -/
  spaced : Bool := false
  /-- Is the last character of all a joiner? -/
  joined : Bool := false
  /-- Is the last character a hyphen or the like, directly behind a Hebrew letter? -/
  hebrewHyphen : Bool := false
  /-- Is the number of letters of flags in front odd? -/
  oddRegional : Bool := false

/-- Does a line end for good behind the class? -/
def BreakClass.endsLine : BreakClass → Bool
  | hard | carriageReturn | lineFeed => true
  | _ => false

/-- Does a character of the class combine with the one before it? -/
def BreakClass.combines : BreakClass → Bool
  | mark | joiner => true
  | _ => false

/-- Is there a character that a mark can combine with? -/
def Preceding.carriesMarks (before : Preceding) : Bool :=
  match before.base with
  | none => false
  | some base => !before.spaced && !base.endsLine && base ≠ .zeroWidthSpace

/-- What stands behind a character. -/
def Preceding.next (before : Preceding) (c : BreakClass) : Preceding :=
  let joined := c = .joiner
  if c.combines then
    if before.carriesMarks then { before with joined } else { base := some .alphabetic, joined }
  else if c = .space then
    let ended := before.base.any BreakClass.endsLine
    { base := if ended then none else before.base, spaced := true }
  else
    let directly (base : BreakClass) := before.base = some base && !before.spaced
    { base := some c
      hebrewHyphen := directly .hebrew && (c = .hyphen || c = .after)
      oddRegional := c = .regional && !(directly .regional && before.oddRegional) }

/-! ## §2. Rules -/

namespace BreakClass

/-- Letters. -/
def isLetter (c : BreakClass) : Bool := c ∈ [alphabetic, hebrew]

/-- What is set like an ideograph. -/
def isIdeographic (c : BreakClass) : Bool := c ∈ [ideograph, emojiBase, emojiModifier]

/-- Parts of Korean syllables. -/
def isKorean (c : BreakClass) : Bool :=
  c ∈ [leading, vowel, trailing, openSyllable, closedSyllable]

/-- Does the part of a Korean syllable go on with the next? -/
def continuesKorean : BreakClass → BreakClass → Bool
  | leading, c => c ∈ [leading, vowel, openSyllable, closedSyllable]
  | vowel, c | openSyllable, c => c ∈ [vowel, trailing]
  | trailing, c | closedSyllable, c => c = trailing
  | _, _ => false

/-- Do two classes belong to one number? -/
def continuesNumber (base c : BreakClass) : Bool :=
  (base ∈ [closing, parenthesis, numeric] && c ∈ [behindNumber, beforeNumber]) ||
    (base ∈ [behindNumber, beforeNumber] && c ∈ [opening, wideOpening, numeric]) ||
    (base ∈ [hyphen, separator, numeric, slash] && c = numeric)

/-- Do two neighbours stay on one line although neither is made for it? -/
def clings (base c : BreakClass) : Bool :=
  (base.isLetter && (c = numeric || c.isLetter)) || (base = numeric && c.isLetter) ||
    (base = beforeNumber && (c.isIdeographic || c.isLetter || c.isKorean)) ||
    ((base.isIdeographic || base.isKorean) && c = behindNumber) ||
    (base = behindNumber && c.isLetter) ||
    (base.isLetter && c ∈ [behindNumber, beforeNumber]) ||
    continuesNumber base c || continuesKorean base c || (base = separator && c.isLetter) ||
    ((base.isLetter || base = numeric) && c = opening) ||
    (base = parenthesis && (c.isLetter || c = numeric)) || (base = emojiBase && c = emojiModifier)

/-- May a line end between two neighbours with nothing between them? -/
def parts (base c : BreakClass) : Bool :=
  if base = quotation || c = quotation then false
  else if base = contingent || c = contingent then true
  else if c ∈ [after, hyphen, nonstarter] || base = before then false
  else if (base = slash && c = hebrew) || c = inseparable then false
  else !clings base c

end BreakClass

/-- Does what precedes keep the class from the start of a line, even behind blanks? -/
def Preceding.holds (before : Preceding) (c : BreakClass) : Bool :=
  c ∈ [.wordJoiner, .closing, .parenthesis, .exclamation, .separator, .slash] ||
    match before.base with
    | none => false
    | some base =>
      base = .opening || base = .wideOpening ||
        (base = .quotation && (c = .opening || c = .wideOpening)) ||
        ((base = .closing || base = .parenthesis) && c = .nonstarter) ||
        (base = .both && c = .both)

/-- May a line end in front of a character that is no mark, where nothing combines? -/
def Preceding.breaksBefore (before : Preceding) (c : BreakClass) : Bool :=
  match before.base with
  | none => before.spaced && !before.holds c && c ≠ .space && c ≠ .zeroWidthSpace && !c.endsLine
  | some base =>
    if base.endsLine then !(base = .carriageReturn && c = .lineFeed)
    else if c.endsLine || c = .space || c = .zeroWidthSpace then false
    else if base = .zeroWidthSpace then true
    else if before.joined then false
    else if before.holds c then
      false
    else if before.spaced then true
    else if base = .wordJoiner || base = .glue then false
    else if c = .glue && base ≠ .after && base ≠ .hyphen then false
    else if before.hebrewHyphen && c ≠ .contingent then false
    else if base = .regional && c = .regional && before.oddRegional then false
    else base.parts c

/-- May a line end in front of a character? -/
def Preceding.allows (before : Preceding) (c : BreakClass) : Bool :=
  if c.combines then !before.carriesMarks && before.breaksBefore .alphabetic
  else before.breaksBefore c

/-! ## §3. Texts -/

/-- For each character, whether a line may end behind it. One may behind the last. -/
def breaksFrom (before : Preceding) : List Char → List Bool
  | [] => []
  | c :: rest =>
    let before := before.next (breakClass c)
    match rest with
    | [] => [true]
    | d :: _ => before.allows (breakClass d) :: breaksFrom before rest

/-- For each character of a text, whether a line may end behind it. -/
def lineBreaks (text : List Char) : List Bool :=
  breaksFrom {} text

end Backtrack.Text
