import CInterface.Interface.Basic

namespace CInterface.LineShape

/-!
# Interfaces — shapes of lines

What a single line of a C interface is.  A line is matched by its shape only; nothing here
looks at a second line.

* `isInclude`, `isTypedef` — lines that are kept as written.
* `signature?` — a whole signature with its terminator: `<type> <name>(<params>) {` or the same
  with `;`.
* `candidateName?` — the name in front of the first `(` of a line that starts like a signature.
* `skipReason` — why a candidate is no declaration, told by the line's end.
-/

/-- A line that begins with `#include`. -/
def isInclude (line : Text) : Bool :=
  Text.startsWith line "#include".toList

/-- A line of blanks, `typedef`, at least one blank, and then something else than whitespace. -/
def isTypedef (line : Text) : Bool :=
  match Text.dropStart? "typedef".toList (line.dropWhile Text.isBlank) with
  | none => false
  | some rest =>
    (rest.head?.any Text.isBlank) &&
      ((rest.dropWhile Text.isBlank).head?.any fun c => !Text.isWhitespace c)

/-! ### The text in front of the first parenthesis -/

/-- The text in front of the first `(` and the text behind it. -/
def splitAtParen? (line : Text) : Option (Text × Text) :=
  match line.dropWhile (· != '(') with
  | [] => none
  | _ :: rest => some (line.takeWhile (· != '('), rest)

/-- A character of a type: a word character or a star. -/
def isTypeChar (c : Char) : Bool :=
  Text.isWord c || c == '*'

/-- A character between a type and what follows: a blank or a star. -/
def isGapChar (c : Char) : Bool :=
  Text.isBlank c || c == '*'

/-- Type characters followed by gap characters, at least one of each. -/
def isReturnType (t : Text) : Bool :=
  (t.head?.any isTypeChar) && (t.dropWhile isTypeChar).all isGapChar &&
    (t.getLast?.any isGapChar) && 2 ≤ t.length

/-- One or more words with gaps behind them: type and gap characters, the first one a type
    character and the last one a gap character. -/
def isLeadIn (t : Text) : Bool :=
  (t.head?.any isTypeChar) && t.all (fun c => isTypeChar c || isGapChar c) &&
    (t.getLast?.any isGapChar) && 2 ≤ t.length

/-! ### Signatures -/

/-- What stands behind the closing parenthesis of a signature. -/
inductive Terminator
  /-- An opening brace: the function is defined here. -/
  | brace
  /-- A semicolon: the function is only announced. -/
  | semicolon
  deriving Repr, DecidableEq

/-- The terminator that a character stands for. -/
def Terminator.ofChar? (c : Char) : Option Terminator :=
  if c = '\x7b' then some .brace else if c = ';' then some .semicolon else none

/-- The parameter list and the terminator of a text `<params>)<terminator>`, with at most one
    space in front of the terminator. -/
def closing? (t : Text) : Option (Text × Terminator) :=
  match t.reverse with
  | c :: ' ' :: ')' :: params => (Terminator.ofChar? c).map (params.reverse, ·)
  | c :: ')' :: params => (Terminator.ofChar? c).map (params.reverse, ·)
  | _ => none

/-- The declaration and the terminator of a line that is a whole signature. -/
def signature? (line : Text) : Option (Declaration × Terminator) := do
  let (front, behind) ← splitAtParen? line
  let name := Text.takeEndWhile Text.isWord front
  let returnType := Text.dropEndWhile Text.isWord front
  let (params, terminator) ← closing? behind
  if name.isEmpty || !isReturnType returnType then none
  else some ({ name := name, returnType := returnType, parameterList := params }, terminator)

/-! ### Candidates -/

/-- The name in front of the first `(` of a line that starts like a signature. -/
def candidateName? (line : Text) : Option Text := do
  let (front, _) ← splitAtParen? line
  let name := Text.takeEndWhile Text.isWord front
  if name.isEmpty || !isLeadIn (Text.dropEndWhile Text.isWord front) then none else some name

/-- Why a candidate is no declaration. -/
def skipReason (line : Text) : SkipReason :=
  match (Text.trimEnd line).getLast? with
  | some ';' => .forwardDeclaration
  | some '\x7b' => .unrecognizedShape
  | _ => .incompleteSignature

end CInterface.LineShape
