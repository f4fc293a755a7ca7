import CInterface.Proofs.Lines
import CInterface.Proofs.Scanning
import CInterface.SymbolList
import CInterface.Toml.Quote
import Mathlib.Tactic.IntervalCases

namespace CInterface

open Toml

/-!
# Symbol lists — reading JSON

A JSON array of strings is read back by the grammar of JSON: string characters stand for
themselves or are escaped by a letter, by four hexadecimal digits or by a pair of surrogates, and
whitespace may surround each token.

* `Json.character`, `Json.string`, `Json.array` — scanners by that grammar.
* `Json.SpellsCharacter`, `Json.character_of_spells` — the ways to spell a character, each of which
  is read as that character.
* `Json.character_jsonChar`, `Json.string_jsonString` — what is written for a character or a text
  is read as that character or text.
* `Json.decode?_renderArray` — a rendered array is read as the list it was rendered from.
-/

namespace Json

open Toml.Scan

/-! ### The grammar -/

/-- Whitespace between tokens. -/
def isSpace (c : Char) : Bool :=
  c == ' ' || c == '\t' || c == '\n' || c == '\r'

/-- Whitespace, perhaps none. -/
def space : Scan Unit := do
  let _ ← takeWhile isSpace

/-- A token with the whitespace in front of it. -/
def token {α : Type} (item : Scan α) : Scan α := do
  space
  item

/-- A number of four hexadecimal digits. -/
def codeUnit : Scan Nat := do
  pure (numberOfDigits 16 (← exactCount (fun c => (hexValue? c).isSome) 4))

/-- A character given by its number, or by the numbers of its two surrogates. -/
def numberedCharacter : Scan Char := do
  let unit ← codeUnit
  if unit < 0xd800 || 0xdfff < unit then pure (Char.ofNat unit)
  else
    exactly "\\u".toList
    let low ← codeUnit
    if unit < 0xdc00 && 0xdc00 ≤ low && low ≤ 0xdfff then
      pure (Char.ofNat (0x10000 + (unit - 0xd800) * 0x400 + (low - 0xdc00)))
    else failure

/-- What stands behind a backslash. -/
def escaped : Scan Char := do
  match ← satisfy fun _ => true with
  | '"' => pure '"'
  | '\\' => pure '\\'
  | '/' => pure '/'
  | 'b' => pure '\x08'
  | 'f' => pure '\x0c'
  | 'n' => pure '\n'
  | 'r' => pure '\r'
  | 't' => pure '\t'
  | 'u' => numberedCharacter
  | _ => failure

/-- A character of a string. -/
def character : Scan Char := do
  let c ← satisfy fun c => c != '"' && 0x20 ≤ c.toNat
  if c = '\\' then escaped else pure c

/-- A string. -/
def string : Scan Text := do
  let _ ← char '"'
  let text ← repeated character
  let _ ← char '"'
  pure text

/-- The strings of an array that is not empty, with commas between them. -/
def strings : Scan (List Text) := do
  let first ← token string
  let rest ← repeated (do let _ ← token (char ','); token string)
  pure (first :: rest)

/-- An array of strings. -/
def array : Scan (List Text) := do
  let _ ← token (char '[')
  let texts ← strings <|> pure []
  let _ ← token (char ']')
  pure texts

/-- The list that a JSON text is, if it is an array of strings and nothing else. -/
def decode? (t : Text) : Option (List Text) :=
  match array t with
  | none => none
  | some (texts, rest) => if rest.all isSpace then some texts else none

/-! ### How a character can be spelled -/

/-- Four hexadecimal digits and the number they stand for. -/
structure SpellsUnit (n : Nat) (digits : Text) : Prop where
  length_eq : digits.length = 4
  isSome_hexValue? : ∀ c ∈ digits, (hexValue? c).isSome = true
  number_eq : numberOfDigits 16 digits = n

/-- What a letter stands for behind a backslash. -/
def letterEscapes : List (Char × Char) :=
  [('"', '"'), ('\\', '\\'), ('/', '/'), ('b', '\x08'), ('f', '\x0c'), ('n', '\n'), ('r', '\r'),
   ('t', '\t')]

/-- How a character can stand in a string: as itself, as a backslash and a letter, by its number, or
    by the numbers of its two surrogates. -/
inductive SpellsCharacter : Char → Text → Prop
  | plain {c : Char} (quote : c ≠ '"') (backslash : c ≠ '\\') (control : 0x20 ≤ c.toNat) :
      SpellsCharacter c [c]
  | letter {c l : Char} (escape : (l, c) ∈ letterEscapes) : SpellsCharacter c ['\\', l]
  | number {c : Char} {digits : Text} (unit : SpellsUnit c.toNat digits) :
      SpellsCharacter c ('\\' :: 'u' :: digits)
  | surrogates {c : Char} {high low : Nat} {front behind : Text}
      (front_unit : SpellsUnit high front) (behind_unit : SpellsUnit low behind)
      (high_range : 0xd800 ≤ high ∧ high ≤ 0xdbff) (low_range : 0xdc00 ≤ low ∧ low ≤ 0xdfff)
      (code : c.toNat = 0x10000 + (high - 0xd800) * 0x400 + (low - 0xdc00)) :
      SpellsCharacter c ('\\' :: 'u' :: (front ++ '\\' :: 'u' :: behind))

/-- The scanner takes four digits off a text. -/
theorem codeUnit_of_spells {n : Nat} {digits : Text} (h : SpellsUnit n digits) (rest : Text) :
    codeUnit (digits ++ rest) = some (n, rest) := by
  have htake : (digits ++ rest).take 4 = digits := by
    rw [← h.length_eq, List.take_left]
  have hdrop : (digits ++ rest).drop 4 = rest := by
    rw [← h.length_eq, List.drop_left]
  have hall : digits.all (fun c => (hexValue? c).isSome) = true :=
    List.all_eq_true.2 h.isSome_hexValue?
  simp [codeUnit, exactCount, htake, hdrop, h.length_eq, hall, h.number_eq]

/-- The number of a character is none of a surrogate. -/
theorem toNat_not_surrogate (c : Char) : c.toNat < 0xd800 ∨ 0xdfff < c.toNat := by
  have hvalid : c.toNat < 0xd800 ∨ 0xdfff < c.toNat ∧ c.toNat < 0x110000 := c.valid
  omega

/-- However a character is spelled, the scanner takes it off the front of a text. -/
theorem character_of_spells {c : Char} {part : Text} (h : SpellsCharacter c part) (rest : Text) :
    character (part ++ rest) = some (c, rest) := by
  have hescape : ∀ t : Text, character ('\\' :: t) = escaped t := fun t => rfl
  have hnumber : ∀ t : Text, escaped ('u' :: t) = numberedCharacter t := fun t => rfl
  cases h with
  | plain hquote hbackslash hcontrol =>
    simp [character, satisfy, hquote, hbackslash, hcontrol]
  | @letter l hmem =>
    simp only [letterEscapes, List.mem_cons, Prod.mk.injEq, List.not_mem_nil, or_false] at hmem
    rcases hmem with ⟨rfl, rfl⟩ | ⟨rfl, rfl⟩ | ⟨rfl, rfl⟩ | ⟨rfl, rfl⟩ | ⟨rfl, rfl⟩ | ⟨rfl, rfl⟩ |
      ⟨rfl, rfl⟩ | ⟨rfl, rfl⟩ <;> rfl
  | number hunit =>
    have hscalar := toNat_not_surrogate c
    rw [List.cons_append, List.cons_append, hescape, hnumber, numberedCharacter, bind_apply,
      codeUnit_of_spells hunit]
    simp [hscalar]
  | @surrogates high low front behind hfront hbehind hhigh hlow hcode =>
    have hpair : ¬ (high < 0xd800 ∨ 0xdfff < high) := by omega
    have hrange : high < 0xdc00 ∧ 0xdc00 ≤ low ∧ low ≤ 0xdfff := by omega
    have hmark : exactly "\\u".toList ('\\' :: 'u' :: (behind ++ rest)) = some ((), behind ++ rest) :=
      rfl
    rw [List.cons_append, List.cons_append, List.append_assoc, hescape, hnumber, numberedCharacter,
      bind_apply, codeUnit_of_spells hfront]
    simp only [Option.bind_some, List.cons_append]
    rw [if_neg (by simpa using hpair), bind_apply, hmark, Option.bind_some, bind_apply,
      codeUnit_of_spells hbehind, Option.bind_some, if_pos (by simpa [and_assoc] using hrange),
      ← hcode, Char.ofNat_toNat]
    rfl

/-! ### Reading what was written -/

/-- The two zeros, the filling zero and the digits of a control character. -/
theorem spellsUnit_control {n : Nat} (h : n < 0x20) :
    SpellsUnit n ("00".toList ++ List.replicate (2 - (Text.hexadecimal n).length) '0'
      ++ Text.hexadecimal n) := by
  -- The number decides how many zeros are written, so each one is computed.
  refine ⟨?_, List.all_eq_true.1 ?_, ?_⟩
  all_goals interval_cases n <;> decide

/-- What is written for a character spells it. -/
theorem spellsCharacter_jsonChar (c : Char) : SpellsCharacter c (Text.jsonChar c) := by
  rw [Text.jsonChar]
  -- Seven characters have an escape of their own; of the others, control characters are escaped
  -- by number and the rest stands for itself.
  split_ifs with hquote hslash hback hfeed hline hreturn htab hcontrol
  · subst hquote; exact .letter (by decide)
  · subst hslash; exact .letter (by decide)
  · subst hback; exact .letter (by decide)
  · subst hfeed; exact .letter (by decide)
  · subst hline; exact .letter (by decide)
  · subst hreturn; exact .letter (by decide)
  · subst htab; exact .letter (by decide)
  · exact .number (spellsUnit_control hcontrol)
  · exact .plain hquote hslash (Nat.le_of_not_lt hcontrol)

/-- What is written for a character is read as that character. -/
theorem character_jsonChar (c : Char) (rest : Text) :
    character (Text.jsonChar c ++ rest) = some (c, rest) :=
  character_of_spells (spellsCharacter_jsonChar c) rest

/-- A quote ends the characters of a string. -/
theorem character_quote (rest : Text) : character ('"' :: rest) = none := by
  simp [character, satisfy]

theorem jsonChar_ne_nil (c : Char) : Text.jsonChar c ≠ [] := by
  rw [Text.jsonChar]
  split_ifs <;> simp

/-- What is written for a text is read as that text. -/
theorem string_jsonString (text rest : Text) :
    string (Text.jsonString text ++ rest) = some (text, rest) := by
  have hbody : repeated character (text.flatMap Text.jsonChar ++ '"' :: rest)
      = some (text, '"' :: rest) :=
    repeated_flatMap character_jsonChar (character_quote rest) jsonChar_ne_nil text
  simp [string, Text.jsonString, char_cons, hbody]

/-- In front of a token that begins the text there is no whitespace to pass over. -/
theorem token_cons {α : Type} (item : Scan α) {c : Char} (h : isSpace c = false) (t : Text) :
    token item (c :: t) = item (c :: t) := by
  simp [token, space, Scan.takeWhile, h]

theorem token_char {c : Char} (h : isSpace c = false) (t : Text) :
    token (char c) (c :: t) = some (c, t) := by
  rw [token_cons (char c) h, char_cons]

theorem token_char_of_ne {c d : Char} (hd : isSpace d = false) (h : d ≠ c) (t : Text) :
    token (char c) (d :: t) = none := by
  rw [token_cons (char c) hd, char_cons_of_ne h]

theorem token_string_jsonString (text rest : Text) :
    token string (Text.jsonString text ++ rest) = some (text, rest) := by
  have hread := string_jsonString text rest
  rw [Text.jsonString] at hread ⊢
  exact (token_cons string rfl _).trans hread

/-- Each further string of a row is written with its comma in front. -/
theorem joinWith_jsonString (text : Text) (texts : List Text) :
    Text.joinWith ",".toList ((text :: texts).map Text.jsonString)
      = Text.jsonString text ++ texts.flatMap (fun s => ',' :: Text.jsonString s) := by
  rw [List.map_cons, Text.joinWith_cons, List.flatMap_map]
  rfl

/-- The strings between the brackets of an array that is not empty. -/
theorem strings_joinWith (text : Text) (texts : List Text) (rest : Text) :
    strings (Text.joinWith ",".toList ((text :: texts).map Text.jsonString) ++ ']' :: rest)
      = some (text :: texts, ']' :: rest) := by
  -- Each further string is written with its comma in front, so one scan reads them all.
  have hrest : repeated (do let _ ← token (char ','); token string)
      (texts.flatMap (fun s => ',' :: Text.jsonString s) ++ ']' :: rest)
        = some (texts, ']' :: rest) := by
    refine repeated_flatMap (fun s t => ?_) ?_ (by simp) texts
    · rw [List.cons_append, bind_apply, token_char rfl]
      exact token_string_jsonString s t
    · rw [bind_apply, token_char_of_ne rfl (by decide)]
      rfl
  rw [joinWith_jsonString, List.append_assoc]
  simp only [strings, bind_apply, token_string_jsonString, Option.bind_some, hrest, pure_apply]

/-- **A rendered array is read as the list it was rendered from.** -/
theorem decode?_renderArray (texts : List Text) :
    decode? (SymbolList.renderArray texts) = some texts := by
  have harray : array (SymbolList.renderArray texts) = some (texts, []) := by
    cases texts with
    | nil => rfl
    | cons text texts =>
      have hstrings := strings_joinWith text texts []
      rw [array, SymbolList.renderArray, List.cons_append, bind_apply, token_char rfl,
        Option.bind_some, bind_apply, orElse_apply, hstrings]
      rfl
  rw [decode?, harray]
  rfl

/-- An array's text determines its strings. -/
theorem renderArray_injective : Function.Injective SymbolList.renderArray := by
  intro texts texts' h
  have hread := congrArg decode? h
  rw [decode?_renderArray, decode?_renderArray] at hread
  exact Option.some.inj hread

end Json

end CInterface
