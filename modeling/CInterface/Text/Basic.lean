import CInterface.Text.CharClass

namespace CInterface

/-!
# Text — cutting and joining

A text is the list of its characters.  The operations here are the ones that readers and
writers of the library share: tests for a leading or contained part, trimming, splitting at a
separator, and numbers in decimal.
-/

/-- A text, as the list of its characters. -/
abbrev Text := List Char

namespace Text

/-- The text as a string. -/
def string (t : Text) : String :=
  String.ofList t

/-- The number of bytes of the text in UTF-8. -/
def utf8Length (t : Text) : Nat :=
  t.string.utf8ByteSize

/-- Does the text begin with `start`? -/
def startsWith (t start : Text) : Bool :=
  start.isPrefixOf t

/-- What follows `start` in a text that begins with it. -/
def dropStart? : (start : Text) → (t : Text) → Option Text
  | [], t => some t
  | _ :: _, [] => none
  | a :: start, c :: t => if a = c then dropStart? start t else none

/-- Does `part` occur in the text? -/
def contains (part : Text) : (t : Text) → Bool
  | [] => part.isEmpty
  | c :: t => part.isPrefixOf (c :: t) || contains part t

/-- The text without leading whitespace. -/
def trimStart (t : Text) : Text :=
  t.dropWhile isWhitespace

/-- The longest end of the text whose characters satisfy `p`. -/
def takeEndWhile (p : Char → Bool) (t : Text) : Text :=
  (t.reverse.takeWhile p).reverse

/-- The text without the longest end whose characters satisfy `p`. -/
def dropEndWhile (p : Char → Bool) (t : Text) : Text :=
  (t.reverse.dropWhile p).reverse

/-- The text without trailing whitespace. -/
def trimEnd (t : Text) : Text :=
  dropEndWhile isWhitespace t

/-- The text without whitespace at either end. -/
def trim (t : Text) : Text :=
  trimEnd (trimStart t)

/-- The parts of the text between the separators; there is one more part than separators. -/
def splitOn (sep : Char) : Text → List Text
  | [] => [[]]
  | c :: t =>
    if c = sep then [] :: splitOn sep t
    else match splitOn sep t with
      | [] => [[c]]
      | part :: parts => (c :: part) :: parts

/-- The parts, one after the other, with `sep` between neighbours. -/
def joinWith (sep : Text) (parts : List Text) : Text :=
  sep.intercalate parts

/-- A number in decimal. -/
def decimal (n : Nat) : Text :=
  Nat.toDigits 10 n

/-- An integer in decimal, with a leading `-` if it is negative. -/
def signedDecimal : Int → Text
  | .ofNat n => decimal n
  | .negSucc n => '-' :: decimal (n + 1)

/-- A number in decimal, filled up with leading zeros to `width` digits. -/
def paddedDecimal (width n : Nat) : Text :=
  List.replicate (width - (decimal n).length) '0' ++ decimal n

/-- A number in lower-case hexadecimal. -/
def hexadecimal (n : Nat) : Text :=
  Nat.toDigits 16 n

/-! ### Laws of cutting -/

/-- Splitting an end off loses nothing. -/
@[simp] theorem dropEndWhile_append_takeEndWhile (p : Char → Bool) (t : Text) :
    dropEndWhile p t ++ takeEndWhile p t = t := by
  rw [dropEndWhile, takeEndWhile, ← List.reverse_append, List.takeWhile_append_dropWhile,
    List.reverse_reverse]

/-- A text that begins with `start` is `start` followed by what `dropStart?` returns. -/
theorem dropStart?_eq_some_iff {start t rest : Text} :
    dropStart? start t = some rest ↔ t = start ++ rest := by
  induction start generalizing t with
  | nil => simp [dropStart?, eq_comm]
  | cons a start ih =>
    cases t with
    | nil => simp [dropStart?]
    | cons c t =>
      by_cases h : a = c
      · subst h; simp [dropStart?, ih]
      · simp [dropStart?, h, Ne.symm h]

/-- Splitting always yields a part. -/
theorem splitOn_ne_nil (sep : Char) (t : Text) : splitOn sep t ≠ [] := by
  cases t with
  | nil => simp [splitOn]
  | cons c t =>
    rw [splitOn]
    split
    · simp
    · split <;> simp

/-- The parts, joined by the separator, are the text again. -/
theorem joinWith_splitOn (sep : Char) (t : Text) : joinWith [sep] (splitOn sep t) = t := by
  induction t with
  | nil => simp [splitOn, joinWith, List.intercalate]
  | cons c t ih =>
    rw [splitOn]
    split
    · next h =>
      subst h
      cases hs : splitOn c t with
      | nil => exact absurd hs (splitOn_ne_nil c t)
      | cons part parts =>
        rw [hs] at ih
        simpa [joinWith, List.intercalate] using ih
    · next h =>
      cases hs : splitOn sep t with
      | nil => exact absurd hs (splitOn_ne_nil sep t)
      | cons part parts =>
        rw [hs] at ih
        cases parts with
        | nil => simpa [joinWith, List.intercalate] using ih
        | cons q qs => simpa [joinWith, List.intercalate] using ih

end Text

end CInterface
