import CInterface.Binary64
import CInterface.Toml.Quote

namespace CInterface.Toml

/-!
# TOML — numbers

Integers are signed and have 64 bits.  A floating-point number has a fraction, an exponent or
both, or is one of the words `inf` and `nan`.  Underscores may stand between digits.
-/

open Scan

/-- An optional sign: is it `-`? -/
def sign : Scan Bool := do
  match ← optional (char '-' <|> char '+') with
  | some '-' => pure true
  | _ => pure false

/-- Digits with single underscores between them; the underscores are dropped. -/
def digitGroups (isDigit : Char → Bool) : Scan Text := do
  let groups ← separated '_' (takeSome isDigit)
  pure groups.flatten

/-- The digits of a whole number: zero alone, or digits that do not begin with zero. -/
def wholeDigits : Scan Text := do
  if ← nextIs '0' then
    let zero ← char '0'
    pure [zero]
  else digitGroups Char.isDigit

/-- The integer, which must fit into 64 bits. -/
def fit (n : Int) : Scan Int :=
  if -9223372036854775808 ≤ n && n ≤ 9223372036854775807 then pure n else failure

/-- Digits of a given base behind `0` and a letter. -/
def basedInteger (letter : Char) (base : Nat) : Scan Int := do
  exactly ['0', letter]
  let digits ← digitGroups fun c => (hexValue? c).any (· < base)
  fit (numberOfDigits base digits)

/-- An integer in decimal. -/
def decimalInteger : Scan Int := do
  let negative ← sign
  let n := numberOfDigits 10 (← wholeDigits)
  fit (if negative then -(n : Int) else n)

/-- An integer. -/
def integer : Scan Int :=
  basedInteger 'x' 16 <|> basedInteger 'o' 8 <|> basedInteger 'b' 2 <|> decimalInteger

/-- The digits behind a decimal point. -/
def fraction : Scan Text := do
  let _ ← char '.'
  digitGroups Char.isDigit

/-- A power of ten. -/
def exponent : Scan Int := do
  let _ ← satisfy fun c => c == 'e' || c == 'E'
  let negative ← sign
  let n := numberOfDigits 10 (← digitGroups Char.isDigit)
  pure (if negative then -(n : Int) else n)

/-- A decimal with a fraction, an exponent or both.  It must not be too large; a negative one
    may be, and is then infinite. -/
def decimalFloat : Scan Binary64 := do
  let negative ← sign
  let whole ← wholeDigits
  let frac ← optional fraction
  let power ← optional exponent
  if frac.isNone && power.isNone then failure
  let digits := frac.getD []
  let x := Binary64.ofDecimal negative (numberOfDigits 10 (whole ++ digits))
    (power.getD 0 - digits.length)
  if x = .infinite false then failure else pure x

/-- The words `inf` and `nan`, with or without a sign. -/
def wordFloat : Scan Binary64 := do
  let negative ← sign
  (do exactly "inf".toList; pure (.infinite negative)) <|> (do exactly "nan".toList; pure .nan)

/-- A floating-point number. -/
def float : Scan Binary64 :=
  decimalFloat <|> wordFloat

end CInterface.Toml
