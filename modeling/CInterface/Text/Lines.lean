import CInterface.Text.Basic

namespace CInterface.Text

/-!
# Text — lines

A line ends at a line feed; one carriage return directly in front of that line feed belongs to
the line end too.  Text behind the last line feed is a line of its own unless it is empty, and
keeps a carriage return at its end.
-/

/-- The text without one carriage return at its end. -/
def dropCarriageReturn (t : Text) : Text :=
  if t.getLast? = some '\r' then t.dropLast else t

/-- The lines of a text cut at its line feeds, the last piece being unterminated. -/
def linesOfPieces : List Text → List Text
  | [] => []
  | [last] => if last.isEmpty then [] else [last]
  | piece :: pieces => dropCarriageReturn piece :: linesOfPieces pieces

/-- The lines of a text. -/
def lines (t : Text) : List Text :=
  linesOfPieces (splitOn '\n' t)

@[simp] theorem lines_nil : lines [] = [] := rfl

end CInterface.Text
