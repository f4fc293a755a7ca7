import CInterface.Proofs.JsonText

namespace CInterface

open Toml

/-!
# Symbol lists — the grammar of JSON

Which texts stand for which JSON values, by the rules of the grammar alone and without a scanner: an
element is a value with whitespace around it, and a whole JSON text is one element.  The text of a
symbol list is such an element and stands for one value only, the array of its symbols.

* `Json.SpellsString`, `Json.SpellsElement` — the rules.
* `Json.SpellsString.unique` — what a text begins with is a string in one way only.
* `Json.spellsElement_renderArray_iff` — what a rendered array stands for.
* `SymbolList.render_spells_symbols` — what the text of a symbol list stands for.
-/

namespace Json

open Toml.Scan

/-! ### The rules -/

/-- A value of JSON.  A number is kept as it is written and an object in the order of its
    members. -/
inductive Value
  | null
  | boolean (b : Bool)
  | number (text : Text)
  | string (text : Text)
  | array (items : List Value)
  | object (members : List (Text × Value))

/-- The characters of a string, one behind the other. -/
inductive SpellsText : Text → Text → Prop
  | nil : SpellsText [] []
  | cons {c : Char} {part text rest : Text} (first : SpellsCharacter c part)
      (others : SpellsText text rest) : SpellsText (c :: text) (part ++ rest)

/-- A string with its quotes. -/
def SpellsString (text t : Text) : Prop :=
  ∃ body, SpellsText text body ∧ t = '"' :: body ++ ['"']

/-- Whitespace, perhaps none. -/
def IsGap (t : Text) : Prop :=
  ∀ c ∈ t, isSpace c = true

/-- Decimal digits, at least one. -/
def IsDigits (t : Text) : Prop :=
  t ≠ [] ∧ ∀ c ∈ t, c.isDigit = true

/-- A number: whole part without leading zeros, fraction and exponent. -/
def IsNumber (t : Text) : Prop :=
  ∃ sign whole fraction exponent, t = sign ++ whole ++ fraction ++ exponent ∧
    (sign = [] ∨ sign = "-".toList) ∧
    (whole = "0".toList ∨ IsDigits whole ∧ whole.head? ≠ some '0') ∧
    (fraction = [] ∨ ∃ digits, IsDigits digits ∧ fraction = '.' :: digits) ∧
    (exponent = [] ∨ ∃ mark direction digits, (mark = 'e' ∨ mark = 'E') ∧
      (direction = [] ∨ direction = "+".toList ∨ direction = "-".toList) ∧ IsDigits digits ∧
      exponent = mark :: direction ++ digits)

mutual

/-- A value, without whitespace around it. -/
inductive SpellsValue : Value → Text → Prop
  | null : SpellsValue .null "null".toList
  | yes : SpellsValue (.boolean true) "true".toList
  | no : SpellsValue (.boolean false) "false".toList
  | number {t : Text} (isNumber : IsNumber t) : SpellsValue (.number t) t
  | string {text t : Text} (isString : SpellsString text t) : SpellsValue (.string text) t
  | emptyArray {gap : Text} (isGap : IsGap gap) : SpellsValue (.array []) ('[' :: gap ++ [']'])
  | array {items : List Value} {t : Text} (areItems : SpellsItems items t) :
      SpellsValue (.array items) ('[' :: t ++ [']'])
  | emptyObject {gap : Text} (isGap : IsGap gap) :
      SpellsValue (.object []) ('\x7b' :: gap ++ ['\x7d'])
  | object {members : List (Text × Value)} {t : Text} (areMembers : SpellsMembers members t) :
      SpellsValue (.object members) ('\x7b' :: t ++ ['\x7d'])

/-- A value with whitespace around it. -/
inductive SpellsElement : Value → Text → Prop
  | mk {v : Value} {before t after : Text} (front : IsGap before) (isValue : SpellsValue v t)
      (behind : IsGap after) : SpellsElement v (before ++ t ++ after)

/-- The items of an array, with commas between them. -/
inductive SpellsItems : List Value → Text → Prop
  | last {v : Value} {t : Text} (item : SpellsElement v t) : SpellsItems [v] t
  | cons {v : Value} {items : List Value} {t rest : Text} (item : SpellsElement v t)
      (others : SpellsItems items rest) : SpellsItems (v :: items) (t ++ ',' :: rest)

/-- The members of an object, with commas between them. -/
inductive SpellsMembers : List (Text × Value) → Text → Prop
  | last {name : Text} {v : Value} {before key after t : Text} (front : IsGap before)
      (isName : SpellsString name key) (behind : IsGap after) (value : SpellsElement v t) :
      SpellsMembers [(name, v)] (before ++ key ++ after ++ ':' :: t)
  | cons {name : Text} {v : Value} {members : List (Text × Value)} {before key after t rest : Text}
      (front : IsGap before) (isName : SpellsString name key) (behind : IsGap after)
      (value : SpellsElement v t) (others : SpellsMembers members rest) :
      SpellsMembers ((name, v) :: members) (before ++ key ++ after ++ ':' :: t ++ ',' :: rest)

end

/-! ### Strings are read in one way -/

/-- What stands in front of a closing quote is spelled in one way only. -/
theorem SpellsText.unique {text text' body body' rest rest' : Text} (h : SpellsText text body)
    (h' : SpellsText text' body') (heq : body ++ '"' :: rest = body' ++ '"' :: rest') :
    text = text' ∧ rest = rest' := by
  induction h generalizing text' body' with
  | nil =>
    cases h' with
    | nil => exact ⟨rfl, (List.cons.inj heq).2⟩
    | @cons _ _ _ others hfirst hothers =>
      -- A quote begins no character.
      have hread := character_of_spells hfirst (others ++ '"' :: rest')
      rw [← List.append_assoc, ← heq, List.nil_append, character_quote] at hread
      exact absurd hread (by simp)
  | @cons _ _ _ others hfirst hothers ih =>
    have hread := character_of_spells hfirst (others ++ '"' :: rest)
    rw [← List.append_assoc, heq] at hread
    cases h' with
    | nil =>
      rw [List.nil_append, character_quote] at hread
      exact absurd hread (by simp)
    | cons hfirst' hothers' =>
      rw [List.append_assoc, character_of_spells hfirst'] at hread
      obtain ⟨hc, hrest⟩ := Prod.mk.inj (Option.some.inj hread)
      obtain ⟨htext, hrest⟩ := ih hothers' hrest.symm
      exact ⟨by rw [hc, htext], hrest⟩

theorem SpellsString.unique {text text' t t' rest rest' : Text} (h : SpellsString text t)
    (h' : SpellsString text' t') (heq : t ++ rest = t' ++ rest') : text = text' ∧ rest = rest' := by
  obtain ⟨body, hbody, rfl⟩ := h
  obtain ⟨body', hbody', rfl⟩ := h'
  simp only [List.cons_append, List.append_assoc, List.nil_append, List.cons.injEq, true_and] at heq
  exact hbody.unique hbody' heq

/-! ### What is written is spelled by the rules -/

theorem spellsString_jsonString (text : Text) : SpellsString text (Text.jsonString text) := by
  refine ⟨text.flatMap Text.jsonChar, ?_, rfl⟩
  induction text with
  | nil => exact .nil
  | cons c text ih => exact .cons (spellsCharacter_jsonChar c) ih

/-! ### No control characters -/

/-- A hexadecimal digit is no control character. -/
theorem control_of_hexValue? {c : Char} (h : (hexValue? c).isSome = true) : 0x20 ≤ c.toNat := by
  rw [hexValue?] at h
  split_ifs at h with hdigit hlower hupper
  · have hrange : '0'.toNat ≤ c.toNat := by
      simp only [Char.isDigit, Bool.and_eq_true, decide_eq_true_eq] at hdigit
      exact hdigit.1
    exact Nat.le_trans (by decide) hrange
  · have hrange : 'a'.toNat ≤ c.toNat := by
      simp only [Bool.and_eq_true, decide_eq_true_eq] at hlower
      exact hlower.1
    exact Nat.le_trans (by decide) hrange
  · have hrange : 'A'.toNat ≤ c.toNat := by
      simp only [Bool.and_eq_true, decide_eq_true_eq] at hupper
      exact hupper.1
    exact Nat.le_trans (by decide) hrange
  · simp at h

/-- However a character is spelled, no control character stands there. -/
theorem SpellsCharacter.control {c : Char} {part : Text} (h : SpellsCharacter c part) :
    ∀ x ∈ part, 0x20 ≤ x.toNat := by
  have hmark : ∀ x ∈ ['\\', 'u'], 0x20 ≤ x.toNat := by simp
  cases h with
  | plain _ _ hcontrol => simpa using hcontrol
  | @letter l hmem =>
    have hletters : ∀ e ∈ letterEscapes, 0x20 ≤ e.1.toNat := by decide
    intro x hx
    rcases List.mem_cons.1 hx with rfl | hx
    · exact hmark _ (by simp)
    · rw [List.mem_singleton.1 hx]
      exact hletters _ hmem
  | number hunit =>
    intro x hx
    rcases List.mem_append.1 (show x ∈ ['\\', 'u'] ++ _ from hx) with hx | hx
    · exact hmark x hx
    · exact control_of_hexValue? (hunit.isSome_hexValue? x hx)
  | @surrogates _ _ front behind hfront hbehind =>
    intro x hx
    have hparts : x ∈ ['\\', 'u'] ∨ x ∈ front ∨ x ∈ ['\\', 'u'] ∨ x ∈ behind := by
      simpa [or_assoc] using hx
    rcases hparts with hx | hx | hx | hx
    · exact hmark x hx
    · exact control_of_hexValue? (hfront.isSome_hexValue? x hx)
    · exact hmark x hx
    · exact control_of_hexValue? (hbehind.isSome_hexValue? x hx)

theorem control_jsonString (text : Text) : ∀ x ∈ Text.jsonString text, 0x20 ≤ x.toNat := by
  intro x hx
  have hparts : x = '"' ∨ ∃ c ∈ text, x ∈ Text.jsonChar c := by
    simp only [Text.jsonString, List.cons_append, List.mem_cons, List.mem_append, List.mem_flatMap,
      List.not_mem_nil, or_false] at hx
    rcases hx with hx | hx | hx
    · exact .inl hx
    · exact .inr hx
    · exact .inl hx
  rcases hparts with rfl | ⟨c, -, hx⟩
  · decide
  · exact (spellsCharacter_jsonChar c).control x hx

theorem control_renderArray (texts : List Text) :
    ∀ x ∈ SymbolList.renderArray texts, 0x20 ≤ x.toNat := by
  have hbrackets : ∀ x ∈ ['[', ']', ','], 0x20 ≤ x.toNat := by simp
  cases texts with
  | nil => simp [SymbolList.renderArray, Text.joinWith]
  | cons text texts =>
    intro x hx
    rw [SymbolList.renderArray, joinWith_jsonString] at hx
    simp only [List.cons_append, List.mem_cons, List.mem_append, List.mem_flatMap,
      List.not_mem_nil, or_false] at hx
    rcases hx with rfl | (hx | ⟨s, -, rfl | hx⟩) | rfl
    · exact hbrackets _ (by simp)
    · exact control_jsonString text x hx
    · exact hbrackets _ (by simp)
    · exact control_jsonString s x hx
    · exact hbrackets _ (by simp)

/-! ### What a text begins with decides the rule -/

theorem isGap_nil : IsGap [] := by
  simp [IsGap]

theorem IsGap.head {c : Char} {t : Text} (h : IsGap (c :: t)) : isSpace c = true :=
  h c List.mem_cons_self

/-- A number begins with a sign or a digit. -/
theorem IsNumber.head {t : Text} (h : IsNumber t) :
    ∃ c rest, t = c :: rest ∧ (c = '-' ∨ c.isDigit = true) := by
  obtain ⟨sign, whole, fraction, exponent, rfl, hsign, hwhole, -, -⟩ := h
  rcases hsign with rfl | rfl
  · rcases hwhole with rfl | ⟨⟨hne, hdigits⟩, -⟩
    · exact ⟨'0', _, rfl, .inr rfl⟩
    · obtain ⟨c, whole, rfl⟩ := List.exists_cons_of_ne_nil hne
      exact ⟨c, _, rfl, .inr (hdigits c List.mem_cons_self)⟩
  · exact ⟨'-', _, rfl, .inl rfl⟩

theorem IsNumber.ne_cons {c : Char} (hminus : c ≠ '-') (hdigit : c.isDigit = false) (t : Text) :
    ¬ IsNumber (c :: t) := by
  intro h
  obtain ⟨c', rest, heq, hc⟩ := h.head
  obtain ⟨rfl, -⟩ := List.cons.inj heq
  rcases hc with hc | hc
  · exact hminus hc
  · rw [hdigit] at hc
    exact absurd hc (by decide)

theorem SpellsValue.ne_nil {v : Value} {t : Text} (h : SpellsValue v t) : t ≠ [] := by
  rintro rfl
  cases h with
  | number hnumber =>
    obtain ⟨c, rest, heq, -⟩ := hnumber.head
    exact absurd heq (by simp)
  | string hstring =>
    obtain ⟨body, -, heq⟩ := hstring
    exact absurd heq (by simp)

/-- Only strings begin with a quote. -/
theorem SpellsValue.of_quote {v : Value} {u : Text} (h : SpellsValue v ('"' :: u)) :
    ∃ text, v = .string text ∧ SpellsString text ('"' :: u) := by
  generalize ht : '"' :: u = t at h
  cases h with
  | string hstring => exact ⟨_, rfl, hstring⟩
  | number hnumber =>
    rw [← ht] at hnumber
    exact absurd hnumber (IsNumber.ne_cons (by decide) (by decide) u)
  | null => simp at ht
  | yes => simp at ht
  | no => simp at ht
  | emptyArray => simp at ht
  | array => simp at ht
  | emptyObject => simp at ht
  | object => simp at ht

/-- Only arrays begin with a bracket. -/
theorem SpellsValue.of_bracket {v : Value} {u : Text} (h : SpellsValue v ('[' :: u)) :
    ∃ items t, v = .array items ∧ u = t ++ [']'] ∧
      (items = [] ∧ IsGap t ∨ SpellsItems items t) := by
  generalize ht : '[' :: u = t at h
  cases h with
  | emptyArray hgap => exact ⟨[], _, rfl, (List.cons.inj ht).2, .inl ⟨rfl, hgap⟩⟩
  | array hitems => exact ⟨_, _, rfl, (List.cons.inj ht).2, .inr hitems⟩
  | number hnumber =>
    rw [← ht] at hnumber
    exact absurd hnumber (IsNumber.ne_cons (by decide) (by decide) u)
  | string hstring =>
    obtain ⟨body, -, rfl⟩ := hstring
    simp at ht
  | null => simp at ht
  | yes => simp at ht
  | no => simp at ht
  | emptyObject => simp at ht
  | object => simp at ht

/-- An element that begins with no whitespace is a value with whitespace behind it. -/
theorem SpellsElement.of_head {v : Value} {c : Char} {u : Text} (hc : isSpace c = false)
    (h : SpellsElement v (c :: u)) :
    ∃ t after, SpellsValue v (c :: t) ∧ IsGap after ∧ u = t ++ after := by
  generalize ht : c :: u = t at h
  obtain ⟨hbefore, hvalue, hafter⟩ := h
  rename_i before t after
  have hspace : ∀ s, ¬ IsGap (c :: s) := by
    intro s hgap
    rw [hgap.head] at hc
    exact absurd hc (by decide)
  cases before with
  | cons b before =>
    obtain ⟨rfl, -⟩ := List.cons.inj ht
    exact absurd hbefore (hspace before)
  | nil =>
    obtain ⟨b, t, rfl⟩ := List.exists_cons_of_ne_nil hvalue.ne_nil
    obtain ⟨rfl, rfl⟩ := List.cons.inj ht
    exact ⟨t, after, hvalue, hafter, rfl⟩

/-! ### What a rendered array stands for -/

/-- An element that begins where a written string begins is that string. -/
theorem SpellsElement.of_jsonString {v : Value} {t rest text tail : Text} (h : SpellsElement v t)
    (hrest : rest.head? ≠ some '"') (heq : t ++ rest = Text.jsonString text ++ tail) :
    v = .string text ∧ ∃ after, IsGap after ∧ tail = after ++ rest := by
  obtain ⟨u, hu⟩ : ∃ u, t = '"' :: u := by
    cases t with
    | nil =>
      rw [List.nil_append] at heq
      exact absurd (by rw [heq]; rfl) hrest
    | cons c u =>
      obtain ⟨rfl, -⟩ := List.cons.inj heq
      exact ⟨u, rfl⟩
  subst hu
  obtain ⟨u, after, hvalue, hafter, rfl⟩ := h.of_head rfl
  obtain ⟨text', rfl, hstring⟩ := hvalue.of_quote
  have hsplit : ('"' :: u) ++ (after ++ rest) = Text.jsonString text ++ tail := by
    rw [← heq]
    simp
  obtain ⟨rfl, htail⟩ := hstring.unique (spellsString_jsonString text) hsplit
  exact ⟨rfl, after, hafter, htail.symm⟩

/-- Items that begin where a written string begins have that string first, and a comma in front of
    the others. -/
theorem SpellsItems.of_jsonString {items : List Value} {text tail : Text}
    (h : SpellsItems items (Text.jsonString text ++ tail)) :
    ∃ others, items = .string text :: others ∧
      (others = [] ∧ IsGap tail ∨
        ∃ after rest, IsGap after ∧ tail = after ++ ',' :: rest ∧ SpellsItems others rest) := by
  generalize ht : Text.jsonString text ++ tail = t at h
  cases h with
  | last hitem =>
    have heq : t ++ [] = Text.jsonString text ++ tail := by rw [List.append_nil, ht]
    obtain ⟨rfl, after, hafter, rfl⟩ := hitem.of_jsonString (by simp) heq
    exact ⟨[], rfl, .inl ⟨rfl, by simpa using hafter⟩⟩
  | cons hitem hothers =>
    obtain ⟨rfl, after, hafter, rfl⟩ := hitem.of_jsonString (by simp) ht.symm
    exact ⟨_, rfl, .inr ⟨after, _, hafter, rfl, hothers⟩⟩

/-- The items of a rendered array are the strings it was rendered from. -/
theorem items_of_jsonStrings {items : List Value} {text : Text} {texts : List Text}
    (h : SpellsItems items
      (Text.jsonString text ++ texts.flatMap (fun s => ',' :: Text.jsonString s))) :
    items = (text :: texts).map .string := by
  -- On the strings behind the first one: each has its comma in front, which is no whitespace.
  induction texts generalizing text items with
  | nil =>
    obtain ⟨others, rfl, ⟨rfl, -⟩ | ⟨after, rest, -, htail, -⟩⟩ := h.of_jsonString
    · rfl
    · exact absurd htail (by simp)
  | cons s texts ih =>
    obtain ⟨others, rfl, ⟨-, hgap⟩ | ⟨after, rest, hafter, htail, hothers⟩⟩ := h.of_jsonString
    · exact absurd hgap.head (by decide)
    · cases after with
      | cons c after =>
        obtain ⟨rfl, -⟩ := List.cons.inj htail
        exact absurd hafter.head (by decide)
      | nil =>
        obtain rfl := (List.cons.inj htail).2
        rw [ih hothers]
        rfl

/-- A value is an element with no whitespace around it. -/
theorem SpellsValue.spellsElement {v : Value} {t : Text} (h : SpellsValue v t) :
    SpellsElement v t := by
  have helement := SpellsElement.mk isGap_nil h isGap_nil
  rwa [List.nil_append, List.append_nil] at helement

theorem spellsElement_jsonString (text : Text) :
    SpellsElement (.string text) (Text.jsonString text) :=
  (SpellsValue.string (spellsString_jsonString text)).spellsElement

theorem spellsItems_jsonStrings (text : Text) (texts : List Text) :
    SpellsItems ((text :: texts).map .string)
      (Text.jsonString text ++ texts.flatMap (fun s => ',' :: Text.jsonString s)) := by
  induction texts generalizing text with
  | nil =>
    rw [List.flatMap_nil, List.append_nil]
    exact .last (spellsElement_jsonString text)
  | cons s texts ih => exact .cons (spellsElement_jsonString text) (ih s)

/-- The items between the brackets of a rendered array. -/
theorem items_of_renderArray {items : List Value} {t : Text} {texts : List Text}
    (hitems : items = [] ∧ IsGap t ∨ SpellsItems items t)
    (ht : Text.joinWith ",".toList (texts.map Text.jsonString) = t) : items = texts.map .string := by
  cases texts with
  | nil =>
    rcases hitems with ⟨rfl, -⟩ | hitems
    · rfl
    · -- No item is spelled by nothing.
      obtain rfl : [] = t := ht
      generalize hnil : ([] : Text) = t at hitems
      cases hitems with
      | last hitem =>
        obtain ⟨-, hvalue, -⟩ := hitem
        obtain ⟨-, ht, -⟩ : _ ∧ _ ∧ _ := by simpa using hnil
        exact absurd ht hvalue.ne_nil
      | cons => simp at hnil
  | cons text texts =>
    rw [joinWith_jsonString] at ht
    subst ht
    rcases hitems with ⟨-, hgap⟩ | hitems
    · exact absurd hgap.head (by decide)
    · exact items_of_jsonStrings hitems

/-- **What a rendered array stands for**: the array of its strings and nothing else. -/
theorem spellsElement_renderArray_iff {texts : List Text} {v : Value} :
    SpellsElement v (SymbolList.renderArray texts) ↔ v = .array (texts.map .string) := by
  constructor
  · intro h
    obtain ⟨u, after, hvalue, hafter, heq⟩ := SpellsElement.of_head rfl h
    obtain ⟨items, t, rfl, rfl, hitems⟩ := hvalue.of_bracket
    -- The last bracket closes the array, since it is no whitespace behind it.
    rcases after.eq_nil_or_concat' with rfl | ⟨after, c, rfl⟩
    · rw [List.append_nil] at heq
      rw [items_of_renderArray hitems (List.append_cancel_right heq)]
    · rw [← List.append_assoc] at heq
      obtain ⟨-, rfl⟩ := List.append_singleton_inj.1 heq
      exact absurd (hafter ']' (by simp)) (by decide)
  · rintro rfl
    apply SpellsValue.spellsElement
    cases texts with
    | nil => exact .emptyArray isGap_nil
    | cons text texts =>
      rw [SymbolList.renderArray, joinWith_jsonString]
      exact .array (spellsItems_jsonStrings text texts)

end Json

/-- **The symbol list stands for its symbols.**  The text holds no control character, and the one
    value that it stands for by the grammar of JSON is the array of the declared names, in order and
    with repetitions, and of the runtime functions behind them, each with what the linker puts in
    front of it. -/
theorem SymbolList.render_spells_symbols (s : InterfaceSettings) (i : Interface) :
    (∀ c ∈ SymbolList.render s i, 0x20 ≤ c.toNat) ∧
      ∀ v, Json.SpellsElement v (SymbolList.render s i) ↔
        v = .array (i.declarations.map (fun d => .string (s.linkerPrefix ++ d.name))
          ++ s.runtimeSymbols.map (fun name => .string (s.linkerPrefix ++ name))) := by
  refine ⟨Json.control_renderArray _, fun v => ?_⟩
  rw [SymbolList.render, Json.spellsElement_renderArray_iff, SymbolList.symbols, Interface.names]
  simp only [List.map_append, List.map_map]
  rfl

end CInterface
