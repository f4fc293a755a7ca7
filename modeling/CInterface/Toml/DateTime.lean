import CInterface.Toml.Quote

namespace CInterface.Toml

/-!
# TOML — dates and times

Dates, times of day, and both together with or without an offset.  A scanner checks the ranges
and returns the canonical spelling: `T` between date and time, nine fraction digits at most and
no zeros at their end, `Z` or a signed offset.
-/

open Scan

/-- A number of `width` digits between `low` and `high`. -/
def field (width low high : Nat) : Scan Nat := do
  let n := numberOfDigits 10 (← exactCount Char.isDigit width)
  if low ≤ n && n ≤ high then pure n else failure

/-- The number of days in a month. -/
def daysInMonth (year month : Nat) : Nat :=
  if month = 2 then
    if year % 4 = 0 && (year % 100 ≠ 0 || year % 400 = 0) then 29 else 28
  else if month = 4 || month = 6 || month = 9 || month = 11 then 30
  else 31

/-- A date. -/
def date : Scan Text := do
  let year ← field 4 0 9999
  let _ ← char '-'
  let month ← field 2 1 12
  let _ ← char '-'
  let day ← field 2 1 (daysInMonth year month)
  pure (Text.paddedDecimal 4 year ++ '-' :: Text.paddedDecimal 2 month
    ++ '-' :: Text.paddedDecimal 2 day)

/-- The fraction of a second. -/
def secondFraction : Scan Text := do
  let _ ← char '.'
  let digits ← takeSome Char.isDigit
  let kept := Text.dropEndWhile (· == '0') (digits.take 9)
  pure (if kept.isEmpty then [] else '.' :: kept)

/-- A time of day. -/
def time : Scan Text := do
  let hour ← field 2 0 23
  let _ ← char ':'
  let minute ← field 2 0 59
  let _ ← char ':'
  let second ← field 2 0 60
  let frac ← optional secondFraction
  pure (Text.paddedDecimal 2 hour ++ ':' :: Text.paddedDecimal 2 minute
    ++ ':' :: Text.paddedDecimal 2 second ++ frac.getD [])

/-- An offset from universal time.  An offset of nothing is written with `+`. -/
def offset : Scan Text :=
  (do
    let _ ← satisfy fun c => c == 'Z' || c == 'z'
    pure ['Z']) <|>
  (do
    let mark ← satisfy fun c => c == '+' || c == '-'
    let hour ← field 2 0 23
    let _ ← char ':'
    let minute ← field 2 0 59
    let mark := if hour = 0 && minute = 0 then '+' else mark
    pure (mark :: Text.paddedDecimal 2 hour ++ ':' :: Text.paddedDecimal 2 minute))

/-- The time behind a date, with its offset. -/
def timeOfDate : Scan Text := do
  let _ ← satisfy fun c => c == 'T' || c == 't' || c == ' '
  let t ← time
  let o ← optional offset
  pure ('T' :: t ++ o.getD [])

/-- A date, a time, or a date with a time. -/
def dateTime : Scan Text :=
  (do
    let d ← date
    let t ← optional timeOfDate
    pure (d ++ t.getD [])) <|> time

end CInterface.Toml
