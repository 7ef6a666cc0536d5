import Backtrack.Regex.Escape

/-!
# Character classes

Reading what stands in brackets: characters, ranges, escapes, named classes, classes within classes,
and the set operations between them. A bracketed class is first folded, when case is ignored, and
then negated, so a negated class excludes a letter in both cases. The reader also tells how deep
classes, lists of items and operations stand within each other.
-/

namespace Backtrack.Regex.CharClass

/-! ## §1. Named classes -/

/-- The classes that have a name, all within ASCII. -/
def named? : String → Option CharSet
  | "alnum" => some ⟨[(0x30, 0x39), (0x41, 0x5A), (0x61, 0x7A)]⟩
  | "alpha" => some ⟨[(0x41, 0x5A), (0x61, 0x7A)]⟩
  | "ascii" => some ⟨[(0x00, 0x7F)]⟩
  | "blank" => some ⟨[(0x09, 0x09), (0x20, 0x20)]⟩
  | "cntrl" => some ⟨[(0x00, 0x1F), (0x7F, 0x7F)]⟩
  | "digit" => some ⟨[(0x30, 0x39)]⟩
  | "graph" => some ⟨[(0x21, 0x7E)]⟩
  | "lower" => some ⟨[(0x61, 0x7A)]⟩
  | "print" => some ⟨[(0x20, 0x7E)]⟩
  | "punct" => some ⟨[(0x21, 0x2F), (0x3A, 0x40), (0x5B, 0x60), (0x7B, 0x7E)]⟩
  | "space" => some ⟨[(0x09, 0x0D), (0x20, 0x20)]⟩
  | "upper" => some ⟨[(0x41, 0x5A)]⟩
  | "word" => some ⟨[(0x30, 0x39), (0x41, 0x5A), (0x5F, 0x5F), (0x61, 0x7A)]⟩
  | "xdigit" => some ⟨[(0x30, 0x39), (0x41, 0x46), (0x61, 0x66)]⟩
  | _ => none

/-- Reads the name of a class behind an opening bracket, and whether it is negated. What does not
end as one is none. -/
def readNamed? : List Char → Option (Bool × CharSet × List Char)
  | ':' :: rest =>
    let (negated, rest) := match rest with
      | '^' :: rest => (true, rest)
      | rest => (false, rest)
    match rest.dropWhile (· != ':') with
    | ':' :: ']' :: after => do
      let set ← named? (String.ofList (rest.takeWhile (· != ':')))
      return (negated, set, after)
    | _ => none
  | _ => none

/-! ## §2. Operations between sets -/

/-- The operations written between two sets. -/
inductive Operation where
  | inter
  | diff
  | symmDiff

/-- The set that an operation makes of two. -/
def Operation.apply : Operation → CharSet → CharSet → CharSet
  | inter => .inter
  | diff => .diff
  | symmDiff => .symmDiff

/-- A set and how deep what was written for it is nested. -/
structure Nested where
  set : CharSet
  depth : Nat

/-- A class that is open: whether it is negated, the operation that waits for its right side, and
the items since then, with their number and the depth of the deepest. -/
structure Open where
  negated : Bool
  pending : Option (Operation × Nested) := none
  items : CharSet := .none
  count : Nat := 0
  depth : Nat := 0

/-- The class with one more item. -/
def Open.push (cls : Open) (item : Nested) : Open :=
  { cls with
    items := .union item.set cls.items, count := cls.count + 1, depth := max cls.depth item.depth }

/-- The set of the class so far: the operation that waits is applied. -/
def Open.value (options : Options) (cls : Open) : Nested :=
  let list : Nested := ⟨cls.items, if 1 < cls.count then cls.depth + 1 else cls.depth⟩
  match cls.pending with
  | none => list
  | some (operation, left) =>
    ⟨operation.apply (options.fold left.set) (options.fold list.set),
      max left.depth list.depth + 1⟩

/-- The class where an operation follows what was read of it. -/
def Open.operate (options : Options) (cls : Open) (operation : Operation) : Open :=
  { negated := cls.negated, pending := some (operation, cls.value options) }

/-- The set of the class at its closing bracket. -/
def Open.close? (options : Options) (cls : Open) : Option Nested :=
  let value := cls.value options
  (options.complementIf? cls.negated (options.fold value.set)).map (⟨·, value.depth + 1⟩)

/-! ## §3. Reading -/

/-- Reads the hyphens at the start of a class, which stand for themselves. -/
def readHyphens (options : Options) : (steps : Nat) → Open → List Char → Open × List Char
  | steps + 1, cls, '-' :: rest =>
    readHyphens options steps (cls.push ⟨.single '-', 0⟩) (options.skip rest)
  | _, cls, rest => (cls, rest)

/-- Reads the start of a class behind its opening bracket: a caret, hyphens that stand for
themselves, and a closing bracket that stands for itself because nothing is before it. -/
def readOpen (options : Options) (steps : Nat) (rest : List Char) : Open × List Char :=
  let (negated, rest) := match options.skip rest with
    | '^' :: rest => (true, options.skip rest)
    | rest => (false, rest)
  match readHyphens options steps { negated } rest with
  | ({ count := 0, .. }, ']' :: rest) =>
    (Open.push { negated } ⟨.single ']', 0⟩, options.skip rest)
  | started => started

/-- One item: a character or a set. -/
inductive Item where
  | char (c : Char)
  | set (chars : CharSet)

/-- A character as an item. There is none beyond ASCII where such characters mean nothing. -/
def Item.ofChar? (options : Options) (c : Char) : Option Item :=
  if options.unicode || c.toNat < 0x80 then some (char c) else none

/-- The set of an item. -/
def Item.chars : Item → CharSet
  | char c => .single c
  | set chars => chars

/-- Reads one character or escape. An assertion is no item. -/
def readItem? (options : Options) (steps : Nat) : List Char → Option (Item × List Char)
  | [] => none
  | '\\' :: rest =>
    match Escape.read? options steps rest with
    | some (.char c, rest) => (Item.ofChar? options c).map (·, rest)
    | some (.set chars, rest) => some (.set chars, rest)
    | _ => none
  | c :: rest => (Item.ofChar? options c).map (·, rest)

/-- Reads one item or a range of characters. A hyphen before a closing bracket, or before another
hyphen, makes no range. -/
def readRange? (options : Options) (steps : Nat) (rest : List Char) :
    Option (CharSet × List Char) := do
  let (item, rest) ← readItem? options steps rest
  let rest := options.skip rest
  match rest with
  | '-' :: behind =>
    if options.peek? behind = some ']' || options.peek? behind = some '-' then
      return (item.chars, rest)
    else
      match item, ← readItem? options steps (options.skip behind) with
      | .char first, (.char last, rest) =>
        if first ≤ last then return (.range first.toNat last.toNat, rest) else none
      | _, _ => none
  | _ => return (item.chars, rest)

/-- Reads the rest of the innermost open class and of the classes around it, with at most so many
steps as there are characters. -/
def readFrom (options : Options) : (steps : Nat) → (cls : Open) → (outer : List Open) →
    List Char → Option (Nested × List Char)
  | 0, _, _, _ => none
  | steps + 1, cls, outer, rest =>
    match options.skip rest with
    | [] => none
    | '[' :: behind =>
      match readNamed? behind with
      | some (negated, set, rest) =>
        match options.complementIf? negated (options.fold set) with
        | some set => readFrom options steps (cls.push ⟨set, 0⟩) outer rest
        | none => none
      | none =>
        let (inner, rest) := readOpen options steps behind
        readFrom options steps inner (cls :: outer) rest
    | ']' :: behind =>
      match cls.close? options, outer with
      | some closed, [] => some (closed, behind)
      | some closed, parent :: outer => readFrom options steps (parent.push closed) outer behind
      | none, _ => none
    | '&' :: '&' :: behind => readFrom options steps (cls.operate options .inter) outer behind
    | '-' :: '-' :: behind => readFrom options steps (cls.operate options .diff) outer behind
    | '~' :: '~' :: behind => readFrom options steps (cls.operate options .symmDiff) outer behind
    | rest =>
      match readRange? options (steps + 1) rest with
      | some (set, rest) => readFrom options steps (cls.push ⟨set, 0⟩) outer rest
      | none => none

/-- Reads a class behind its opening bracket, in a text no longer than `steps`. -/
def read? (options : Options) (steps : Nat) (rest : List Char) : Option (Nested × List Char) :=
  let (cls, rest) := readOpen options steps rest
  readFrom options steps cls [] rest

end Backtrack.Regex.CharClass
