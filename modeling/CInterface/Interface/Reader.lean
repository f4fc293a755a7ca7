import CInterface.Interface.LineShape
import CInterface.Log
import CInterface.Text.Lines

namespace CInterface

/-!
# Interfaces — reading C text

`Interface.read` collects what the lines of a C text are.  Reading never fails: a line of no
known shape is passed over.

* `ReaderOptions.declaration?` — the declaration that a line is.
* `ReaderOptions.skipped?` — the near miss that a line is.
* `Interface.readLog` — what reading reports.
-/

/-- What counts as an exported function. -/
structure ReaderOptions where
  /-- What the name of an exported function begins with. -/
  symbolPrefix : Text := "QTS_".toList
  /-- Are prototypes, which end in `;`, declarations too? -/
  prototypes : Bool := false
  deriving Repr, DecidableEq

namespace ReaderOptions

/-- Does a terminator end a declaration? -/
def accepts (o : ReaderOptions) : LineShape.Terminator → Bool
  | .brace => true
  | .semicolon => o.prototypes

/-- Is a function of this name exported? -/
def exports (o : ReaderOptions) (name : Text) : Bool :=
  Text.startsWith name o.symbolPrefix

/-- The declaration that a line is. -/
def declaration? (o : ReaderOptions) (line : Text) : Option Declaration :=
  match LineShape.signature? line with
  | none => none
  | some (d, terminator) =>
    if o.accepts terminator && o.exports d.name then some d else none

/-- The near miss that a line is: a candidate with an exported name that is no declaration. -/
def skipped? (o : ReaderOptions) (lineNumber : Nat) (line : Text) : Option SkippedLine :=
  match LineShape.candidateName? line with
  | none => none
  | some name =>
    if o.exports name && (o.declaration? line).isNone then
      some { lineNumber := lineNumber, text := line, reason := LineShape.skipReason line }
    else none

end ReaderOptions

namespace Interface

/-- The near misses among lines that are numbered from `start` on. -/
def skippedFrom (o : ReaderOptions) : (start : Nat) → List Text → List SkippedLine
  | _, [] => []
  | start, line :: rest => (o.skipped? start line).toList ++ skippedFrom o (start + 1) rest

/-- The interface that a list of lines is. -/
def ofLines (o : ReaderOptions) (lines : List Text) : Interface where
  includes := lines.filter LineShape.isInclude
  typedefs := lines.filter LineShape.isTypedef
  declarations := lines.filterMap o.declaration?
  skipped := skippedFrom o 1 lines

/-- The interface that a C text is. -/
def read (o : ReaderOptions) (content : Text) : Interface :=
  ofLines o (Text.lines content)

/-- The report on a near miss: a warning, unless the line merely announces a function. -/
def skippedLog (s : SkippedLine) : LogLine where
  level := match s.reason with
    | .forwardDeclaration => .debug
    | .incompleteSignature | .unrecognizedShape => .warn
  message := "line ".toList ++ Text.decimal s.lineNumber ++ ": skipping `".toList
    ++ Text.trim s.text ++ "` (".toList ++ s.reason.message ++ ")".toList

/-- The report on reading an interface: its near misses, then how much was found. -/
def readLog (i : Interface) : List LogLine :=
  i.skipped.map skippedLog ++
    [{ level := .debug
       message := "parsed ".toList ++ Text.decimal i.includes.length ++ " includes, ".toList
        ++ Text.decimal i.typedefs.length ++ " typedefs, ".toList
        ++ Text.decimal i.declarations.length ++ " declarations".toList }]

end Interface

end CInterface
