import CInterface.Proofs.LineKinds

namespace CInterface

/-!
# Interfaces — the grammar of declarations

The lines that are declarations, spelled out character class by character class.  The two parts
of a return type share the star, the parameters may hold parentheses, and the space in front of
the terminator may be missing; even so a line can be spelled in one way only.

* `ReaderOptions.Spells` — a line is put together from a declaration, at most one space and a
  terminator.
* `ReaderOptions.Spells.unique` — what a line is put together from.
* `ReaderOptions.declaration?_iff_spells` — reading finds exactly what a line is put together
  from.
-/

namespace LineShape

/-! ### Character classes of a return type -/

theorem isTypeChar_iff {c : Char} : isTypeChar c = true ↔ Text.isWord c = true ∨ c = '*' := by
  rw [isTypeChar, Bool.or_eq_true, beq_iff_eq]

theorem isGapChar_iff {c : Char} : isGapChar c = true ↔ c = ' ' ∨ c = '\t' ∨ c = '*' := by
  simp only [isGapChar, Text.isBlank, Bool.or_eq_true, beq_iff_eq, or_assoc]

end LineShape

namespace ReaderOptions

/-! ### Names and terminators -/

theorem exports_iff {o : ReaderOptions} {name : Text} :
    o.exports name = true ↔ o.symbolPrefix <+: name := by
  rw [exports, Text.startsWith, List.isPrefixOf_iff_prefix]

/-- A brace ends every declaration, a semicolon those that are prototypes. -/
theorem accepts_iff {o : ReaderOptions} {terminator : LineShape.Terminator} :
    o.accepts terminator = true ↔
      [terminator.char] = "\x7b".toList ∨ o.prototypes = true ∧ [terminator.char] = ";".toList := by
  cases terminator with
  | brace => exact iff_of_true rfl (.inl rfl)
  | semicolon =>
    have hbrace : [LineShape.Terminator.semicolon.char] ≠ "\x7b".toList := by decide
    constructor
    · intro h
      exact .inr ⟨h, rfl⟩
    · rintro (h | ⟨h, -⟩)
      · exact absurd h hbrace
      · exact h

/-- The text of a terminator that ends a declaration. -/
theorem exists_accepts_iff {o : ReaderOptions} {t : Text} :
    (∃ terminator, o.accepts terminator = true ∧ t = [terminator.char]) ↔
      t = "\x7b".toList ∨ o.prototypes = true ∧ t = ";".toList := by
  constructor
  · rintro ⟨terminator, haccepts, rfl⟩
    exact accepts_iff.1 haccepts
  · rintro (rfl | ⟨hproto, rfl⟩)
    · exact ⟨.brace, rfl, rfl⟩
    · exact ⟨.semicolon, hproto, rfl⟩

/-! ### Spelling a line -/

/-- The line is `<return type><name>(<parameters>)<space><terminator>`: the return type consists of
    word characters or stars and, behind them, blanks or stars; the name is a word that begins with
    the prefix of exported names; the space may be missing; and the terminator is an opening brace
    or, for prototypes, a semicolon. -/
structure Spells (o : ReaderOptions) (line : Text) (d : Declaration) (space terminator : Text) :
    Prop where
  line_eq : line = d.returnType ++ d.name ++ "(".toList ++ d.parameterList ++ ")".toList ++ space
    ++ terminator
  space_eq : space = [] ∨ space = " ".toList
  terminator_eq : terminator = "\x7b".toList ∨ o.prototypes = true ∧ terminator = ";".toList
  returnType_eq : ∃ type gap, d.returnType = type ++ gap ∧ type ≠ [] ∧ gap ≠ [] ∧
    (∀ c ∈ type, Text.isWord c = true ∨ c = '*') ∧ (∀ c ∈ gap, c = ' ' ∨ c = '\t' ∨ c = '*')
  name_ne_nil : d.name ≠ []
  isWord_of_mem_name : ∀ c ∈ d.name, Text.isWord c = true
  name_starts : o.symbolPrefix <+: d.name

variable {o : ReaderOptions} {line : Text} {d e : Declaration}

theorem Spells.wellFormed {space terminator : Text} (h : o.Spells line d space terminator) :
    d.WellFormed where
  name_ne_nil := h.name_ne_nil
  isWord_of_mem_name := h.isWord_of_mem_name
  isReturnType := by
    obtain ⟨type, gap, heq, htype, hgap, htypes, hgaps⟩ := h.returnType_eq
    exact LineShape.isReturnType_iff.2 ⟨type, gap, heq, htype, hgap,
      fun c hc => LineShape.isTypeChar_iff.2 (htypes c hc),
      fun c hc => LineShape.isGapChar_iff.2 (hgaps c hc)⟩

/-- A line that is spelled by a declaration has its signature. -/
theorem Spells.signature? {space terminator : Text} (h : o.Spells line d space terminator) :
    ∃ t, LineShape.signature? line = some (d, t) ∧ o.accepts t = true ∧ terminator = [t.char] := by
  obtain ⟨t, haccepts, hchar⟩ := exists_accepts_iff.2 h.terminator_eq
  refine ⟨t, LineShape.signature?_eq_some_iff.2 ⟨h.wellFormed, space, h.space_eq, ?_⟩, haccepts,
    hchar⟩
  rw [h.line_eq, hchar]
  simp

/-- A line that is read as a declaration is spelled by it. -/
theorem spells_of_declaration? (h : o.declaration? line = some d) :
    ∃ space terminator, o.Spells line d space terminator := by
  obtain ⟨t, hsig, haccepts, hexports⟩ := declaration?_eq_some_iff.1 h
  obtain ⟨hd, space, hspace, hline⟩ := LineShape.signature?_eq_some_iff.1 hsig
  obtain ⟨type, gap, heq, htype, hgap, htypes, hgaps⟩ :=
    LineShape.isReturnType_iff.1 hd.isReturnType
  exact ⟨space, [t.char],
    { line_eq := by simp [hline]
      space_eq := hspace
      terminator_eq := accepts_iff.1 haccepts
      returnType_eq := ⟨type, gap, heq, htype, hgap,
        fun c hc => LineShape.isTypeChar_iff.1 (htypes c hc),
        fun c hc => LineShape.isGapChar_iff.1 (hgaps c hc)⟩
      name_ne_nil := hd.name_ne_nil
      isWord_of_mem_name := hd.isWord_of_mem_name
      name_starts := exports_iff.1 hexports }⟩

/-- A line that is spelled by a declaration is read as that declaration. -/
theorem Spells.declaration? {space terminator : Text} (h : o.Spells line d space terminator) :
    o.declaration? line = some d := by
  obtain ⟨t, hsig, haccepts, -⟩ := h.signature?
  exact declaration?_eq_some_iff.2 ⟨t, hsig, haccepts, exports_iff.2 h.name_starts⟩

/-- What a line is spelled with.  The signature fixes the declaration and the terminator, and what
    is left between the parenthesis and the terminator is the space. -/
theorem Spells.unique {space terminator space' terminator' : Text}
    (h : o.Spells line d space terminator) (h' : o.Spells line e space' terminator') :
    d = e ∧ space = space' ∧ terminator = terminator' := by
  obtain ⟨t, hsig, -, hchar⟩ := h.signature?
  obtain ⟨t', hsig', -, hchar'⟩ := h'.signature?
  rw [hsig] at hsig'
  obtain ⟨rfl, rfl⟩ : d = e ∧ t = t' := by simpa using hsig'
  have hline := h.line_eq.symm.trans h'.line_eq
  rw [hchar, hchar'] at hline
  exact ⟨rfl, List.append_cancel_left (List.append_cancel_right hline), hchar.trans hchar'.symm⟩

/-- **The declaration grammar.**  For every line, prefix and choice on prototypes, reading the line
    yields a declaration exactly if the declaration spells the line, and all ways to spell a line
    are the same. -/
theorem declaration?_iff_spells (o : ReaderOptions) (line : Text) :
    (∀ d, o.declaration? line = some d ↔ ∃ space terminator, o.Spells line d space terminator) ∧
    (∀ d e space terminator space' terminator', o.Spells line d space terminator →
      o.Spells line e space' terminator' → d = e ∧ space = space' ∧ terminator = terminator') := by
  constructor
  · intro d
    constructor
    · exact spells_of_declaration?
    · rintro ⟨space, terminator, h⟩
      exact h.declaration?
  · intro d e space terminator space' terminator' h h'
    exact h.unique h'

/-- A function with a callback: the stars could go to either part of the return type and a closing
    parenthesis stands inside the parameters, yet no other spelling exists. -/
theorem declaration?_iff_spells_callback :
    let line := "char**QTS_Names(int (*next)(void)) \x7b".toList
    let d : Declaration := ⟨"QTS_Names".toList, "char**".toList, "int (*next)(void)".toList⟩
    ReaderOptions.Spells {} line d " ".toList "\x7b".toList ∧
      ReaderOptions.declaration? {} line = some d ∧
      ∀ e space terminator, ReaderOptions.Spells {} line e space terminator →
        e = d ∧ space = " ".toList ∧ terminator = "\x7b".toList := by
  intro line d
  have htype : ∀ c ∈ "char*".toList, LineShape.isTypeChar c = true := List.all_eq_true.1 rfl
  have hgap : ∀ c ∈ "*".toList, LineShape.isGapChar c = true := List.all_eq_true.1 rfl
  have hspells : ReaderOptions.Spells {} line d " ".toList "\x7b".toList :=
    { line_eq := rfl
      space_eq := .inr rfl
      terminator_eq := .inl rfl
      returnType_eq := ⟨"char*".toList, "*".toList, rfl, by simp, by simp,
        fun c hc => LineShape.isTypeChar_iff.1 (htype c hc),
        fun c hc => LineShape.isGapChar_iff.1 (hgap c hc)⟩
      name_ne_nil := by simp [d]
      isWord_of_mem_name := List.all_eq_true.1 rfl
      name_starts := exports_iff.1 rfl }
  have hgrammar := declaration?_iff_spells {} line
  refine ⟨hspells, (hgrammar.1 d).2 ⟨_, _, hspells⟩, ?_⟩
  intro e space terminator h
  exact hgrammar.2 e d _ _ _ _ h hspells

end ReaderOptions

end CInterface
