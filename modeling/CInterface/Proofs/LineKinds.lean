import CInterface.Interface.Reader
import CInterface.Proofs.Lines
import CInterface.Proofs.Signature

namespace CInterface

/-!
# Interfaces — kinds of lines

Which kinds a line can be at once, and what a carriage return at its end changes.

* `LineShape.isInclude_iff`, `LineShape.isTypedef_iff`, `ReaderOptions.declaration?_eq_some_iff` —
  the lines of each kind.
* `LineShape.isInclude_dropCarriageReturn`, `LineShape.isTypedef_dropCarriageReturn` — an include
  or a typedef line stays one without the carriage return at its end.  For declarations this
  fails: the line has to end in its terminator.
* An include line is nothing else, while a typedef line may be a declaration as well.
* `Interface.of_mem_declarations_read` — what is known of a declaration that was read.
-/

namespace LineShape

/-! ### Include lines -/

theorem isInclude_iff {line : Text} :
    isInclude line = true ↔ ∃ rest, line = "#include".toList ++ rest := by
  rw [isInclude, Text.startsWith, List.isPrefixOf_iff_prefix]
  exact ⟨fun ⟨rest, h⟩ => ⟨rest, h.symm⟩, fun ⟨rest, h⟩ => ⟨rest, h.symm⟩⟩

theorem isInclude_dropCarriageReturn {line : Text} (h : isInclude line = true) :
    isInclude (Text.dropCarriageReturn line) = true := by
  obtain ⟨rest, rfl⟩ := isInclude_iff.1 h
  rw [Text.dropCarriageReturn_append (by decide)]
  exact isInclude_iff.2 ⟨_, rfl⟩

/-- A line that begins with another character is no include line. -/
theorem isInclude_eq_false {line : Text} {c : Char} (h : line.head? = some c) (hc : c ≠ '#') :
    isInclude line = false := by
  obtain ⟨rest, rfl⟩ := List.head?_eq_some_iff.1 h
  refine Bool.eq_false_iff.2 fun hinc => ?_
  obtain ⟨rest', heq⟩ := isInclude_iff.1 hinc
  exact hc (List.cons.inj heq).1

/-! ### Typedef lines -/

theorem isTypedef_iff {line : Text} :
    isTypedef line = true ↔ ∃ blanks gap c rest,
      line = blanks ++ ("typedef".toList ++ (gap ++ c :: rest)) ∧
      (∀ x ∈ blanks, Text.isBlank x = true) ∧ gap ≠ [] ∧ (∀ x ∈ gap, Text.isBlank x = true) ∧
      Text.isWhitespace c = false := by
  constructor
  · intro h
    rw [isTypedef] at h
    split at h
    · exact absurd h (by simp)
    · next rest hdrop =>
      rw [Text.dropStart?_eq_some_iff] at hdrop
      simp only [Bool.and_eq_true, Option.any_eq_true, Bool.not_eq_true'] at h
      obtain ⟨⟨b, hb, hblank⟩, c, hc, hspace⟩ := h
      obtain ⟨tail, htail⟩ := List.head?_eq_some_iff.1 hc
      refine ⟨line.takeWhile Text.isBlank, rest.takeWhile Text.isBlank, c, tail, ?_,
        fun x hx => List.mem_takeWhile_imp hx, ?_, fun x hx => List.mem_takeWhile_imp hx, hspace⟩
      · rw [← htail, List.takeWhile_append_dropWhile, ← hdrop, List.takeWhile_append_dropWhile]
      · obtain ⟨rest, rfl⟩ := List.head?_eq_some_iff.1 hb
        simp [hblank]
  · rintro ⟨blanks, gap, c, rest, rfl, hblanks, hne, hgap, hc⟩
    have hcblank : Text.isBlank c = false :=
      Bool.eq_false_iff.2 fun hb => by simp [Text.isWhitespace_of_isBlank hb] at hc
    have hdrop : (blanks ++ ("typedef".toList ++ (gap ++ c :: rest))).dropWhile Text.isBlank
        = "typedef".toList ++ (gap ++ c :: rest) := by
      rw [List.dropWhile_append_of_pos hblanks]
      rfl
    rw [isTypedef, hdrop, Text.dropStart?_eq_some_iff.2 rfl]
    obtain ⟨b, gap, rfl⟩ := List.exists_cons_of_ne_nil hne
    simp only [List.dropWhile_append_of_pos hgap]
    simp [hgap b (by simp), hcblank, hc]

theorem isTypedef_dropCarriageReturn {line : Text} (h : isTypedef line = true) :
    isTypedef (Text.dropCarriageReturn line) = true := by
  obtain ⟨blanks, gap, c, rest, rfl, hblanks, hne, hgap, hc⟩ := isTypedef_iff.1 h
  have hcr : c ≠ '\r' := by
    rintro rfl
    exact absurd hc (by decide)
  -- The carriage return stands behind the first character of what is defined.
  have hassoc : blanks ++ ("typedef".toList ++ (gap ++ c :: rest))
      = (blanks ++ "typedef".toList ++ gap ++ [c]) ++ rest := by simp
  have hlast : (blanks ++ "typedef".toList ++ gap ++ [c]).getLast? ≠ some '\r' := by
    rw [List.getLast?_concat]
    simpa using hcr
  rw [hassoc, Text.dropCarriageReturn_append hlast]
  exact isTypedef_iff.2
    ⟨blanks, gap, c, Text.dropCarriageReturn rest, by simp, hblanks, hne, hgap, hc⟩

/-- A typedef line begins with a blank or a `t`. -/
theorem head?_of_isTypedef {line : Text} (h : isTypedef line = true) :
    ∃ c, line.head? = some c ∧ (Text.isBlank c = true ∨ c = 't') := by
  obtain ⟨blanks, gap, c, rest, rfl, hblanks, -, -, -⟩ := isTypedef_iff.1 h
  cases blanks with
  | nil => exact ⟨'t', rfl, .inr rfl⟩
  | cons b blanks => exact ⟨b, rfl, .inl (hblanks b (by simp))⟩

theorem isInclude_of_isTypedef {line : Text} (h : isTypedef line = true) :
    isInclude line = false := by
  obtain ⟨c, hhead, hc⟩ := head?_of_isTypedef h
  refine isInclude_eq_false hhead ?_
  rintro rfl
  exact absurd hc (by decide)

theorem isTypedef_of_isInclude {line : Text} (h : isInclude line = true) :
    isTypedef line = false := by
  refine Bool.eq_false_iff.2 fun hdef => ?_
  simp [isInclude_of_isTypedef hdef] at h

/-! ### Signatures -/

/-- What a well-formed declaration is spelled with first is a type character. -/
theorem head?_returnType {d : Declaration} (h : d.WellFormed) :
    ∃ c, d.returnType.head? = some c ∧ isTypeChar c = true := by
  obtain ⟨a, b, heq, ha, -, htype, -⟩ := isReturnType_iff.1 h.isReturnType
  obtain ⟨c, a, rfl⟩ := List.exists_cons_of_ne_nil ha
  exact ⟨c, by simp [heq], htype c (by simp)⟩

/-- A line that begins with the return type of a well-formed declaration is no include line. -/
theorem isInclude_returnType_append {d : Declaration} (h : d.WellFormed) (rest : Text) :
    isInclude (d.returnType ++ rest) = false := by
  obtain ⟨c, hhead, hc⟩ := head?_returnType h
  have hline : (d.returnType ++ rest).head? = some c := by simp [List.head?_append, hhead]
  refine isInclude_eq_false hline ?_
  rintro rfl
  exact absurd hc (by decide)

theorem isInclude_prototype {d : Declaration} (h : d.WellFormed) :
    isInclude d.prototype = false := by
  rw [Declaration.prototype, List.append_assoc, List.append_assoc]
  exact isInclude_returnType_append h _

theorem isInclude_of_signature? {line : Text} {d : Declaration} {terminator : Terminator}
    (h : signature? line = some (d, terminator)) : isInclude line = false := by
  obtain ⟨hd, gap, -, rfl⟩ := signature?_eq_some_iff.1 h
  rw [List.append_assoc]
  exact isInclude_returnType_append hd _

end LineShape

/-! ### Declarations -/

namespace ReaderOptions

theorem declaration?_eq_some_iff {o : ReaderOptions} {line : Text} {d : Declaration} :
    o.declaration? line = some d ↔ ∃ terminator,
      LineShape.signature? line = some (d, terminator) ∧ o.accepts terminator = true ∧
      o.exports d.name = true := by
  constructor
  · intro h
    rw [declaration?] at h
    split at h
    · exact absurd h (by simp)
    · next e terminator hsig =>
      split at h
      · next hguard =>
        obtain rfl := Option.some.inj h
        exact ⟨terminator, hsig, by simpa using hguard⟩
      · exact absurd h (by simp)
  · rintro ⟨terminator, hsig, haccepts, hexports⟩
    simp [declaration?, hsig, haccepts, hexports]

theorem declaration?_of_isInclude (o : ReaderOptions) {line : Text}
    (h : LineShape.isInclude line = true) : o.declaration? line = none := by
  by_contra hne
  obtain ⟨d, hd⟩ := Option.ne_none_iff_exists'.1 hne
  obtain ⟨terminator, hsig, -, -⟩ := declaration?_eq_some_iff.1 hd
  simp [LineShape.isInclude_of_signature? hsig] at h

/-- With prototypes accepted, the prototype of an exported function is its declaration. -/
theorem declaration?_prototype {o : ReaderOptions} (hproto : o.prototypes = true)
    {d : Declaration} (h : d.WellFormed) (hexports : o.exports d.name = true) :
    o.declaration? d.prototype = some d :=
  declaration?_eq_some_iff.2 ⟨.semicolon, LineShape.signature?_prototype h, hproto, hexports⟩

end ReaderOptions

namespace Interface

/-- A declaration that was read is well-formed, is exported, and its prototype is one line. -/
theorem of_mem_declarations_read {o : ReaderOptions} {content : Text} {d : Declaration}
    (h : d ∈ (read o content).declarations) :
    d.WellFormed ∧ o.exports d.name = true ∧ '\n' ∉ d.prototype := by
  obtain ⟨line, hline, hd⟩ := List.mem_filterMap.1 h
  obtain ⟨terminator, hsig, -, hexports⟩ := ReaderOptions.declaration?_eq_some_iff.1 hd
  obtain ⟨hwf, gap, -, rfl⟩ := LineShape.signature?_eq_some_iff.1 hsig
  have hnl := Text.newline_not_mem_of_mem_lines hline
  refine ⟨hwf, hexports, ?_⟩
  simp only [List.mem_append, List.mem_cons, not_or] at hnl
  simp [Declaration.prototype, hnl]

end Interface

end CInterface
