import CInterface.Text.AlphanumericRanges
import CInterface.Text.UnprintableRanges
import CInterface.Text.WordRanges

namespace CInterface.Text

/-!
# Text — character classes

The classes by which lines, types and parameters are cut.  Each is decided directly on ASCII
and by a table of ranges beyond it.

* `isWord` — letters, marks, digits, connectors: what a whole word is made of.
* `isAlphanumeric` — letters and numbers of every kind; marks and connectors are left out.
* `isNameChar` — what a parameter or type name is made of: alphanumeric or `_`.
* `isWhitespace` — the Unicode property `White_Space`.
* `isBlank` — space and tab only.
-/

/-- Is the code point inside one of the closed ranges? -/
def inRanges (ranges : List (Nat × Nat)) (n : Nat) : Bool :=
  ranges.any fun r => Nat.ble r.1 n && Nat.ble n r.2

/-- A word character. -/
def isWord (c : Char) : Bool :=
  if c.toNat < 128 then c.isAlphanum || c == '_' else inRanges wordRanges c.toNat

/-- A letter or a number. -/
def isAlphanumeric (c : Char) : Bool :=
  if c.toNat < 128 then c.isAlphanum else inRanges alphanumericRanges c.toNat

/-- A character of a parameter name or of a type name. -/
def isNameChar (c : Char) : Bool :=
  isAlphanumeric c || c == '_'

/-- Closed ranges of the characters with the property `White_Space`. -/
def whitespaceRanges : List (Nat × Nat) :=
  [(0x9, 0xd), (0x20, 0x20), (0x85, 0x85), (0xa0, 0xa0), (0x1680, 0x1680), (0x2000, 0x200a),
   (0x2028, 0x2029), (0x202f, 0x202f), (0x205f, 0x205f), (0x3000, 0x3000)]

/-- A whitespace character. -/
def isWhitespace (c : Char) : Bool :=
  inRanges whitespaceRanges c.toNat

/-- A space or a tab. -/
def isBlank (c : Char) : Bool :=
  c == ' ' || c == '\t'

/-- A character with a printed form of its own. -/
def isPrintable (c : Char) : Bool :=
  if c.toNat < 128 then 0x20 ≤ c.toNat && c.toNat < 0x7f
  else !inRanges unprintableRanges c.toNat

/-- What holds of the characters in the whitespace ranges holds of every whitespace character. -/
theorem of_isWhitespace {p : Char → Prop}
    (htable : ∀ r ∈ whitespaceRanges, ∀ k < r.2 + 1 - r.1, p (Char.ofNat (r.1 + k))) {c : Char}
    (h : isWhitespace c = true) : p c := by
  obtain ⟨r, hr, hin⟩ := List.any_eq_true.1 h
  obtain ⟨hlow, hhigh⟩ : r.1 ≤ c.toNat ∧ c.toNat ≤ r.2 := by simpa using hin
  have hk := htable r hr (c.toNat - r.1) (by omega)
  rwa [show r.1 + (c.toNat - r.1) = c.toNat by omega, Char.ofNat_toNat] at hk

/-! ### What stands between words is in no word -/

theorem isWord_star : isWord '*' = false := rfl

/-- A blank is whitespace. -/
theorem isWhitespace_of_isBlank {c : Char} (h : isBlank c = true) : isWhitespace c = true := by
  simp only [isBlank, Bool.or_eq_true, beq_iff_eq] at h
  rcases h with rfl | rfl <;> rfl

/-- A blank is no word character. -/
theorem isWord_of_isBlank {c : Char} (h : isBlank c = true) : isWord c = false := by
  simp only [isBlank, Bool.or_eq_true, beq_iff_eq] at h
  rcases h with rfl | rfl <;> rfl

end CInterface.Text
