import CInterface.Text.Basic

namespace CInterface.Text

/-!
# Text — quoted forms

* `quoted` — a text between double quotes as messages show it: quotes, backslashes and the
  common controls are escaped by a letter, other characters without a printed form by number.
* `jsonString` — a text as a JSON string literal: quotes, backslashes and the characters below
  U+0020 are escaped, all else stands for itself.
* `logSafe` — a text as a log line shows it: controls that steer a terminal are spelled out.
-/

/-- A character by its number, in braces. -/
def numberEscape (c : Char) : Text :=
  "\\u\x7b".toList ++ hexadecimal c.toNat ++ "\x7d".toList

/-- A character inside a quoted text. -/
def quotedChar (c : Char) : Text :=
  if c = '\x00' then "\\0".toList
  else if c = '\t' then "\\t".toList
  else if c = '\r' then "\\r".toList
  else if c = '\n' then "\\n".toList
  else if c = '\\' then "\\\\".toList
  else if c = '"' then "\\\"".toList
  else if isPrintable c then [c]
  else numberEscape c

/-- The text between double quotes, on one line and in printed characters only. -/
def quoted (t : Text) : Text :=
  '"' :: t.flatMap quotedChar ++ ['"']

/-- A character inside a JSON string literal. -/
def jsonChar (c : Char) : Text :=
  if c = '"' then "\\\"".toList
  else if c = '\\' then "\\\\".toList
  else if c = '\x08' then "\\b".toList
  else if c = '\x0c' then "\\f".toList
  else if c = '\n' then "\\n".toList
  else if c = '\r' then "\\r".toList
  else if c = '\t' then "\\t".toList
  else if c.toNat < 0x20 then
    "\\u00".toList ++ List.replicate (2 - (hexadecimal c.toNat).length) '0'
      ++ hexadecimal c.toNat
  else [c]

/-- The text as a JSON string literal. -/
def jsonString (t : Text) : Text :=
  '"' :: t.flatMap jsonChar ++ ['"']

/-- A character inside a log line. -/
def logSafeChar (c : Char) : Text :=
  if c = '\x1b' then "\\x1b".toList
  else if c = '\x07' then "\\x07".toList
  else if c = '\x08' then "\\x08".toList
  else if c = '\x0c' then "\\x0c".toList
  else if c = '\x7f' then "\\x7f".toList
  else if 0x80 ≤ c.toNat && c.toNat ≤ 0x9f then numberEscape c
  else [c]

/-- The text without the controls that steer a terminal. -/
def logSafe (t : Text) : Text :=
  t.flatMap logSafeChar

end CInterface.Text
