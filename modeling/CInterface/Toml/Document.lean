import CInterface.Toml.DateTime
import CInterface.Toml.Draft
import CInterface.Toml.Number

namespace CInterface.Toml

/-!
# TOML — documents

`Toml.parse?` reads a whole document and returns the entries of its root table, or nothing if
the text is no document: because of its form, because something is defined twice, because a
number is out of range, or because values are nested too deeply.
-/

open Scan

/-! ### Keys -/

/-- The greatest number of parts of a key, and of brackets inside one another. -/
def depthLimit : Nat := 79

/-- A character of a key without quotes. -/
def isBareKeyChar (c : Char) : Bool :=
  c.isAlphanum || c == '-' || c == '_'

/-- One part of a key. -/
def keyPart : Scan Text := do
  blanks
  let part ← basicString <|> literalString <|> takeSome isBareKeyChar
  blanks
  pure part

/-- A key with dots between its parts. -/
def key : Scan Key := do
  let parts ← separated '.' keyPart
  match parts.getLast? with
  | some name => if parts.length ≤ depthLimit then pure ⟨parts.dropLast, name⟩ else failure
  | none => failure

/-! ### Values -/

/-- A value without parts. -/
def scalar : Scan Value :=
  (do pure (.string (← string))) <|>
  (do pure (.dateTime (← dateTime))) <|>
  (do pure (.float (← float))) <|>
  (do pure (.integer (← integer))) <|>
  (do exactly "true".toList; pure (.boolean true)) <|>
  (do exactly "false".toList; pure (.boolean false))

/-- An array of values; a comma may stand behind the last one. -/
def array (item : Scan Value) : Scan Value := do
  let _ ← char '['
  let items ← optional (separated ',' (do arraySpace; let v ← item; arraySpace; pure v))
  if items.isSome then
    let _ ← optional (char ',')
  arraySpace
  let _ ← char ']'
  pure (.array (items.getD []))

/-- A table on one line; no comma may stand behind the last pair. -/
def inlineTable (item : Scan Value) : Scan Value := do
  let _ ← char '\x7b'
  let pair : Scan (Key × Value) := do
    let k ← key
    let _ ← char '='
    blanks
    let v ← item
    blanks
    pure (k, v)
  let pairs ← optional (separated ',' pair)
  blanks
  let _ ← char '\x7d'
  match Draft.insertPairs [] (pairs.getD []) with
  | some fields => pure (.table (Draft.toEntries fields))
  | none => failure

/-- A value with at most `depth` brackets inside one another. -/
def value : (depth : Nat) → Scan Value
  | 0 => scalar
  | depth + 1 => scalar <|> array (value depth) <|> inlineTable (value depth)

/-! ### Statements -/

/-- A line of a document that says something. -/
inductive Statement
  /-- A header `[key]`. -/
  | header (key : Key)
  /-- A header `[[key]]`. -/
  | arrayHeader (key : Key)
  /-- A value under a key. -/
  | pair (key : Key) (v : Value)

/-- A statement with the rest of its line. -/
def statement : Scan Statement :=
  (do
    exactly "[[".toList
    let k ← key
    exactly "]]".toList
    lineRest
    pure (.arrayHeader k)) <|>
  (do
    let _ ← char '['
    let k ← key
    let _ ← char ']'
    lineRest
    pure (.header k)) <|>
  (do
    let k ← key
    let _ ← char '='
    blanks
    let v ← value depthLimit
    lineRest
    pure (.pair k v))

/-- A line of a document: a comment, nothing, or a statement. -/
def documentLine : Scan (Option Statement) := do
  let line ← (do comment; lineEnd; pure none) <|> (do newline; pure none) <|> (some <$> statement)
  blanks
  pure line

/-- The statements of a whole document, which may begin with a byte order mark. -/
def statements : Scan (List Statement) := do
  let _ ← optional (char '\ufeff')
  blanks
  let lines ← repeated documentLine
  if ← atEnd then pure (lines.filterMap id) else failure

/-! ### Tables -/

/-- The pairs in front of the first header, and the statements from there on. -/
def splitPairs : List Statement → List (Key × Value) × List Statement
  | .pair k v :: rest =>
    let (pairs, others) := splitPairs rest
    ((k, v) :: pairs, others)
  | others => ([], others)

/-- Add the tables of the headers among the statements, each with the pairs below it.  The pairs
    in front of the first header are left out. -/
def addSections : Fields → List Statement → Option Fields
  | root, [] => some root
  | root, .pair _ _ :: rest => addSections root rest
  | root, .header k :: rest => do
    let root ← Draft.placeTable root k (splitPairs rest).1
    addSections root rest
  | root, .arrayHeader k :: rest => do
    let root ← Draft.appendTable root k (splitPairs rest).1
    addSections root rest

/-- The root table that the statements define. -/
def build? (statements : List Statement) : Option (List (Text × Value)) := do
  let root ← Draft.insertPairs [] (splitPairs statements).1
  let root ← addSections root statements
  some (Draft.toEntries root)

/-- The entries of a document's root table. -/
def parse? (t : Text) : Option (List (Text × Value)) := do
  let (statements, _) ← statements t
  build? statements

end CInterface.Toml
