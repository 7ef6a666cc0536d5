import Backtrack.Text.Split

/-!
# Looking up paths

A tree of files below a working directory, and what a path leads to. A path goes from name to name,
each taken in a directory: an empty name and a single dot stay there, two dots go up. Nothing is
known of the directories outside the tree but that they are there.
-/

namespace Backtrack

/-- What stands at the end of a path. -/
inductive Place where
  | file (octets : List UInt8)
  | directory
  deriving DecidableEq, Repr

/-- Files and directories, each with the names that lead to it. A directory need not be listed if
something below it is. -/
structure FileTree where
  places : List (List Text × Place) := []

namespace FileTree

/-- How far a path has led. -/
inductive Position where
  /-- Down from the working directory, the last name first. -/
  | inside (names : List Text)
  /-- To a directory outside the tree. -/
  | outside

/-- What stands at a position. -/
def place? (tree : FileTree) : Position → Option Place
  | .outside => some .directory
  | .inside names =>
    let names := names.reverse
    match tree.places.lookup names with
    | some place => some place
    | none =>
      if names.isEmpty || tree.places.any fun entry => names.isPrefixOf entry.1 then
        some .directory
      else none

/-- Takes a name in a directory. -/
def Position.enter? : Position → Text → Option Position
  | position, [] => some position
  | position, ['.'] => some position
  | .inside (_ :: names), ['.', '.'] => some (.inside names)
  | .inside [], ['.', '.'] => some .outside
  | .outside, ['.', '.'] => some .outside
  | .inside names, name => some (.inside (name :: names))
  | .outside, _ => none

/-- Follows names from a position. -/
def follow? (tree : FileTree) (position : Position) : List Text → Option Place
  | [] => tree.place? position
  | name :: names =>
    match tree.place? position with
    | some .directory => (position.enter? name).bind fun next => tree.follow? next names
    | _ => none

/-- What a path leads to. The empty path leads nowhere. -/
def find? (tree : FileTree) (path : Text) : Option Place :=
  match path with
  | [] => none
  | '/' :: path => tree.follow? .outside (Text.splitOn '/' path)
  | path => tree.follow? (.inside []) (Text.splitOn '/' path)

end FileTree

end Backtrack
