import CInterface.Declaration

namespace CInterface

/-!
# Interfaces

What the library keeps of one C interface file: its include lines and typedef lines as
written, its exported declarations, and the lines that look like exported signatures but are
not declarations.
-/

/-- Why a line that looks like an exported signature is no declaration. -/
inductive SkipReason
  /-- It ends in `;`. -/
  | forwardDeclaration
  /-- It ends neither in `;` nor in an opening brace. -/
  | incompleteSignature
  /-- It ends in an opening brace but has more or less than a type in front of the name. -/
  | unrecognizedShape
  deriving Repr, DecidableEq

/-- The short name of a reason. -/
def SkipReason.label : SkipReason → Text
  | forwardDeclaration => "forward-declaration".toList
  | incompleteSignature => "incomplete-signature".toList
  | unrecognizedShape => "unrecognized-shape".toList

/-- A reason as a report words it. -/
def SkipReason.message : SkipReason → Text
  | forwardDeclaration => "forward declaration".toList
  | incompleteSignature => "signature not on a single line".toList
  | unrecognizedShape => "does not match `<type> <name>(<params>) \x7b`".toList

/-- The reason with a given short name. -/
def SkipReason.ofLabel? (label : Text) : Option SkipReason :=
  [forwardDeclaration, incompleteSignature, unrecognizedShape].find? (·.label = label)

/-- A line that looks like an exported signature but is no declaration. -/
structure SkippedLine where
  /-- The line's number, counted from one. -/
  lineNumber : Nat
  /-- The line as written. -/
  text : Text
  /-- Why it is no declaration. -/
  reason : SkipReason
  deriving Repr, DecidableEq

/-- One C interface file. -/
structure Interface where
  /-- The include lines, in source order. -/
  includes : List Text := []
  /-- The typedef lines, in source order. -/
  typedefs : List Text := []
  /-- The exported functions, in source order. -/
  declarations : List Declaration := []
  /-- The near misses, in source order. -/
  skipped : List SkippedLine := []
  deriving Repr, DecidableEq

/-- The names of the declarations, in source order. -/
def Interface.names (i : Interface) : List Text :=
  i.declarations.map (·.name)

end CInterface
