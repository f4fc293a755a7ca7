import CInterface.Text.Basic

namespace CInterface.Toml

/-!
# TOML — scanning text

A scanner takes a part off the front of a text or fails.  The scanners here read what stands
between the tokens of a document: blanks, comments and line ends.
-/

/-- A scanner: the part that it reads and the text behind it. -/
abbrev Scan := StateT Text Option

namespace Scan

/-- One character that satisfies `p`. -/
def satisfy (p : Char → Bool) : Scan Char := fun t =>
  match t with
  | [] => none
  | c :: rest => if p c then some (c, rest) else none

/-- The character `c`. -/
def char (c : Char) : Scan Char :=
  satisfy (· == c)

/-- The text `expected`. -/
def exactly (expected : Text) : Scan Unit := fun t =>
  (Text.dropStart? expected t).map ((), ·)

/-- The longest stretch of characters that satisfy `p`. -/
def takeWhile (p : Char → Bool) : Scan Text := fun t =>
  some (t.takeWhile p, t.dropWhile p)

/-- The longest stretch of characters that satisfy `p`, which is not empty. -/
def takeSome (p : Char → Bool) : Scan Text := do
  let part ← takeWhile p
  if part.isEmpty then failure else pure part

/-- Exactly `n` characters that satisfy `p`. -/
def exactCount (p : Char → Bool) (n : Nat) : Scan Text := fun t =>
  let part := t.take n
  if part.length = n && part.all p then some (part, t.drop n) else none

/-- Is the next character `c`? -/
def nextIs (c : Char) : Scan Bool := fun t =>
  some (t.head? == some c, t)

/-- Is nothing left? -/
def atEnd : Scan Bool := fun t =>
  some (t.isEmpty, t)

/-- What `item` reads, again and again, at most once for each character of `bound`. -/
def repeatUpTo (item : Scan α) : (bound : Text) → Scan (List α)
  | [] => pure []
  | _ :: bound => (do
      let first ← item
      let rest ← repeatUpTo item bound
      pure (first :: rest)) <|> pure []

/-- What `item` reads, as often as it can; each time it has to read something. -/
def repeated (item : Scan α) : Scan (List α) := do
  repeatUpTo item (← get)

/-- What `item` reads, at least once, with the character `sep` between two times.  A separator
    without an item behind it is left unread. -/
def separated (sep : Char) (item : Scan α) : Scan (List α) := do
  let first ← item
  let rest ← repeated (char sep *> item)
  pure (first :: rest)

end Scan

open Scan

/-! ### Between tokens -/

/-- Blanks. -/
def blanks : Scan Unit := do
  let _ ← takeWhile Text.isBlank

/-- A line feed, with or without a carriage return in front of it. -/
def newline : Scan Unit :=
  exactly "\n".toList <|> exactly "\r\n".toList

/-- A character that may stand in a comment or between quotes: any but a control, the tab apart. -/
def isPlain (c : Char) : Bool :=
  c == '\t' || (0x20 ≤ c.toNat && c.toNat ≠ 0x7f)

/-- A comment, without the end of its line. -/
def comment : Scan Unit := do
  let _ ← char '#'
  let _ ← takeWhile isPlain

/-- The end of a line or of the document. -/
def lineEnd : Scan Unit := do
  if ← atEnd then pure () else newline

/-- The rest of a line behind an expression: blanks, perhaps a comment, the line's end. -/
def lineRest : Scan Unit := do
  blanks
  let _ ← optional comment
  lineEnd

/-- Blanks, comments and line ends between the parts of an array. -/
def arraySpace : Scan Unit := do
  let _ ← repeated ((do let _ ← takeSome Text.isBlank) <|> newline <|> (do comment; newline))

end CInterface.Toml
