import Backtrack.Toml.Scalar

/-!
# Reading documents

```text
document  := (statement? blanks comment? line-end)*
statement := "[" key "]" | "[[" key "]]" | key "=" value
key       := name ("." name)*
value     := string | word | "[" values "]" | "{" assignments "}"
```

Values in brackets and assignments in braces are separated by commas, of which one may stand at the
end, and may run over several lines, with comments. In braces a line may also end on either side of
an equals sign.
-/

namespace Backtrack.Toml

/-! ## §1. Between values -/

/-- The text without the blanks at its start. -/
def skipSpaces (text : Text) : Text :=
  text.dropWhile isSpace

/-- What follows blanks, comments and line ends. A comment holds no control characters. -/
def skipLines? (comment : Bool) : Text → Option Text
  | [] => some []
  | '\n' :: rest => skipLines? false rest
  | '\r' :: '\n' :: rest => skipLines? false rest
  | c :: rest =>
    if comment then if isControl c then none else skipLines? true rest
    else if c = '#' then skipLines? true rest
    else if isSpace c then skipLines? false rest
    else some (c :: rest)

/-- What follows the end of a line, a comment before it included. The end of the text ends a line.
-/
def endLine? (comment : Bool) : Text → Option Text
  | [] => some []
  | '\n' :: rest => some rest
  | '\r' :: '\n' :: rest => some rest
  | c :: rest =>
    if comment then if isControl c then none else endLine? true rest
    else if c = '#' then endLine? true rest
    else if isSpace c then endLine? false rest
    else none

/-! ## §2. Keys -/

/-- Can the character be part of a name without quotation marks? -/
def isNameChar (c : Char) : Bool :=
  c.isAlphanum || c = '_' || c = '-'

/-- Reads a name, with quotation marks or without. -/
def readName? (text : Text) : Option (Text × Text) :=
  match text with
  | [] => none
  | c :: rest =>
    if c = '"' || c = '\'' then readShort? c rest
    else if isNameChar c then some (text.takeWhile isNameChar, text.dropWhile isNameChar)
    else none

/-- How many names a dotted key may have. -/
def keyLimit : Nat := 80

/-- Reads a dotted key of at most so many names, the names before the last apart. -/
def readNames? : (count : Nat) → Text → Option (List Text × Text × Text)
  | 0, _ => none
  | count + 1, text => do
    let (name, text) ← readName? text
    match skipSpaces text with
    | '.' :: rest => do
      let (path, last, rest) ← readNames? count (skipSpaces rest)
      return (name :: path, last, rest)
    | rest => return ([], name, rest)

/-- Reads a dotted key. -/
def readKey? (text : Text) : Option (List Text × Text × Text) :=
  readNames? keyLimit text

/-! ## §3. Values -/

/-- How deep brackets and braces may nest. -/
def nestingLimit : Nat := 80

mutual

/-- Reads a value. `fuel` bounds how many values follow one another or nest, and `room` how deep
brackets and braces may still nest. -/
def readValue? : (fuel room : Nat) → Text → Option (Item × Text)
  | 0, _, _ => none
  | fuel + 1, room, text =>
    match text, room with
    | '[' :: rest, room + 1 => do
      let (items, rest) ← readItems? fuel room rest
      return (.array items, rest)
    | '\x7b' :: rest, room + 1 => do
      let (table, rest) ← readBraces? fuel room ⟨.braces, []⟩ rest
      return (table.toItem, rest)
    | '"' :: _, _ | '\'' :: _, _ => do
      let (content, rest) ← readString? text
      return (.string content, rest)
    | _, _ => readWord? text

/-- Reads values up to the closing bracket. -/
def readItems? : (fuel room : Nat) → Text → Option (List Item × Text)
  | 0, _, _ => none
  | fuel + 1, room, text => do
    match ← skipLines? false text with
    | ']' :: rest => return ([], rest)
    | text =>
      let (item, rest) ← readValue? fuel room text
      match ← skipLines? false rest with
      | ',' :: rest =>
        let (items, rest) ← readItems? fuel room rest
        return (item :: items, rest)
      | ']' :: rest => return ([item], rest)
      | _ => none

/-- Reads assignments into a table, up to the closing brace. -/
def readBraces? : (fuel room : Nat) → Table → Text → Option (Table × Text)
  | 0, _, _, _ => none
  | fuel + 1, room, table, text => do
    match ← skipLines? false text with
    | '\x7d' :: rest => return (table, rest)
    | text =>
      let (path, name, rest) ← readKey? text
      let rest ← Text.after? ['='] (← skipLines? false rest)
      let (item, rest) ← readValue? fuel room (← skipLines? false rest)
      let table ← table.assign? path name item
      match ← skipLines? false rest with
      | ',' :: rest => readBraces? fuel room table rest
      | '\x7d' :: rest => return (table, rest)
      | _ => none

end

/-! ## §4. Statements -/

/-- Reads a statement from its first character on. -/
def readStatement? (fuel : Nat) : Text → Option (Statement × Text)
  | '[' :: '[' :: rest => do
    let (path, name, rest) ← readKey? (skipSpaces rest)
    return (.element path name, ← Text.after? [']', ']'] rest)
  | '[' :: rest => do
    let (path, name, rest) ← readKey? (skipSpaces rest)
    return (.table path name, ← Text.after? [']'] rest)
  | text => do
    let (path, name, rest) ← readKey? text
    let rest ← Text.after? ['='] rest
    let (item, rest) ← readValue? fuel nestingLimit (skipSpaces rest)
    return (.assign path name item, rest)

/-- Reads at most so many statements, each on lines of its own, up to the end of the text. -/
def readStatements? (fuel : Nat) : (count : Nat) → Text → Option (List Statement)
  | 0, _ => none
  | count + 1, text => do
    match ← skipLines? false text with
    | [] => return []
    | text =>
      let (statement, rest) ← readStatement? fuel text
      let rest ← endLine? false rest
      return statement :: (← readStatements? fuel count rest)

/-- The text without the mark of the byte order at its start. -/
def dropMark : Text → Text
  | c :: rest => if c = '\uFEFF' then rest else c :: rest
  | [] => []

/-- Reads a document. No part of it takes more steps than it has characters twice over. -/
def Table.ofText? (text : Text) : Option Table := do
  let text := dropMark text
  let statements ← readStatements? (2 * text.length + 2) (text.length + 1) text
  Table.ofStatements? statements

end Backtrack.Toml
