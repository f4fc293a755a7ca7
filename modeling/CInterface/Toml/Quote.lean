import CInterface.Toml.Scan

namespace CInterface.Toml

/-!
# TOML — strings

The four spellings of a string: between double quotes with escapes or between single quotes
without, each on one line or, with three quotes, over several lines.
-/

open Scan

/-! ### Escapes -/

/-- The value of a hexadecimal digit. -/
def hexValue? (c : Char) : Option Nat :=
  if c.isDigit then some (c.toNat - '0'.toNat)
  else if 'a' ≤ c && c ≤ 'f' then some (c.toNat - 'a'.toNat + 10)
  else if 'A' ≤ c && c ≤ 'F' then some (c.toNat - 'A'.toNat + 10)
  else none

/-- The number with the given digits. -/
def numberOfDigits (base : Nat) (digits : Text) : Nat :=
  digits.foldl (fun n c => n * base + (hexValue? c).getD 0) 0

/-- A character given by `n` hexadecimal digits, which must be a Unicode scalar value. -/
def hexEscape (n : Nat) : Scan Char := do
  let code := numberOfDigits 16 (← exactCount (fun c => (hexValue? c).isSome) n)
  if code < 0xd800 || (0xdfff < code && code < 0x110000) then pure (Char.ofNat code) else failure

/-- The character that an escape stands for. -/
def escape : Scan Char := do
  let _ ← char '\\'
  match ← satisfy fun _ => true with
  | 'b' => pure '\x08'
  | 'f' => pure '\x0c'
  | 'n' => pure '\n'
  | 'r' => pure '\r'
  | 't' => pure '\t'
  | '"' => pure '"'
  | '\\' => pure '\\'
  | 'u' => hexEscape 4
  | 'U' => hexEscape 8
  | _ => failure

/-! ### One line -/

/-- A character that stands for itself between double quotes. -/
def isBasic (c : Char) : Bool :=
  isPlain c && c != '"' && c != '\\'

/-- A character that stands for itself between single quotes. -/
def isLiteral (c : Char) : Bool :=
  isPlain c && c != '\''

/-- A string between double quotes. -/
def basicString : Scan Text := do
  let _ ← char '"'
  let parts ← repeated (takeSome isBasic <|> (do pure [← escape]))
  let _ ← char '"'
  pure parts.flatten

/-- A string between single quotes. -/
def literalString : Scan Text := do
  let _ ← char '\''
  let part ← takeWhile isLiteral
  let _ ← char '\''
  pure part

/-! ### Several lines -/

/-- A line end that is escaped, with the blanks and line ends around it. -/
def escapedNewline : Scan Unit := do
  let _ ← char '\\'
  blanks
  newline
  let _ ← repeated ((do let _ ← takeSome Text.isBlank) <|> newline)

/-- A line end inside a string, which counts as a line feed however it is spelled. -/
def innerNewline : Scan Text := do
  newline
  pure ['\n']

/-- One or two quotes that do not end a string, because something else follows. -/
def innerQuotes (quote : Char) : Scan Text := fun t =>
  let quotes := t.takeWhile (· == quote)
  if quotes.isEmpty || 3 ≤ quotes.length then none else some (quotes, t.dropWhile (· == quote))

/-- The three quotes that end a string, with the one or two quotes in front of them that still
    belong to it. -/
def closingQuotes (quote : Char) : Scan Text := fun t =>
  let count := (t.takeWhile (· == quote)).length
  if count < 3 then none
  else
    let kept := min 2 (count - 3)
    some (List.replicate kept quote, t.drop (kept + 3))

/-- A string of several lines: three quotes, perhaps a line end, the parts, three quotes. -/
def multilineString (quote : Char) (part : Scan Text) : Scan Text := do
  exactly [quote, quote, quote]
  let _ ← optional newline
  let parts ← repeated (part <|> innerQuotes quote)
  let last ← closingQuotes quote
  pure (parts.flatten ++ last)

/-- A string of several lines between double quotes. -/
def multilineBasicString : Scan Text :=
  multilineString '"'
    (takeSome isBasic <|> (do escapedNewline; pure []) <|> (do pure [← escape]) <|> innerNewline)

/-- A string of several lines between single quotes. -/
def multilineLiteralString : Scan Text :=
  multilineString '\'' (takeSome isLiteral <|> innerNewline)

/-- A string in any spelling. -/
def string : Scan Text :=
  multilineBasicString <|> basicString <|> multilineLiteralString <|> literalString

end CInterface.Toml
