import CInterface.Text.Basic

namespace CInterface

/-!
# Workspaces — paths

A path as the steps that it takes.  A path begins at the root if its text begins with `/`, else
at the working directory.
-/

/-- A step of a path. -/
inductive Step
  /-- The step `.`, which stays. -/
  | here
  /-- The step `..`, which leaves a directory. -/
  | up
  /-- A step to a name in a directory. -/
  | down (name : Text)
  deriving Repr, DecidableEq

namespace Step

/-- The step that a name stands for. -/
def ofName (name : Text) : Step :=
  if name = ".".toList then here else if name = "..".toList then up else down name

/-- The name of a step. -/
def name : Step → Text
  | here => ".".toList
  | up => "..".toList
  | down name => name

end Step

/-- A path. -/
structure Path where
  /-- Does it begin at the root? -/
  absolute : Bool
  /-- The steps in order. -/
  steps : List Step
  /-- Does its text end in `/`? -/
  slash : Bool
  deriving Repr, DecidableEq

namespace Path

/-- The path with a given text.  Several `/` in a row count as one. -/
def ofText (t : Text) : Path where
  absolute := t.head? = some '/'
  steps := ((Text.splitOn '/' t).filter fun name => !name.isEmpty).map Step.ofName
  slash := t.getLast? = some '/'

/-- The path of the directory that a path lies in: without its last step, `.` not counted. -/
def parent (p : Path) : Path :=
  { p with steps := (p.steps.filter (· ≠ .here)).dropLast, slash := false }

/-- The pieces of a path's text without those at its end that lead nowhere else: `.` and what
    stands between two `/` in a row. -/
def dropIdle (names : List Text) : List Text :=
  (names.reverse.dropWhile fun name => name.isEmpty || name == ".".toList).reverse

/-- The text of the directory that a path lies in, spelled as in the text of the path.  It is
    empty if the path lies where it begins. -/
def parentText (t : Text) : Text :=
  Text.joinWith "/".toList (dropIdle (dropIdle (Text.splitOn '/' t)).dropLast)

/-- The text of the directory that a path lies in, as a path of its own.  A path that lies where it
    begins lies in `/` or in `.`. -/
def directoryText (t : Text) : Text :=
  if !(parentText t).isEmpty then parentText t
  else if (ofText t).absolute then "/".toList else ".".toList

/-- The text of the path of `name` inside a directory. -/
def join (directory name : Text) : Text :=
  if directory.isEmpty || directory.getLast? = some '/' then directory ++ name
  else directory ++ '/' :: name

end Path

end CInterface
