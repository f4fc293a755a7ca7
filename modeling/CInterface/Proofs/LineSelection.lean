import CInterface.Proofs.Candidates

namespace CInterface

/-!
# Interfaces — what the reader options select

The options of the reader change no line and no reason; they only select.  A prefix picks those
declarations and near misses out of the ones under the empty prefix whose name begins with it.
Accepting prototypes turns near misses that end in `;` into declarations, but only those that are
whole prototypes: a specifier in front of the type or a blank behind the `;` still makes the line a
near miss.

* `LineShape.candidateName?_of_signature?` — a signature and a candidate have the same name.
* `ReaderOptions.declaration?_eq_filter`, `ReaderOptions.skipped?_eq_filter` — what the prefix does
  to a line.
* `ReaderOptions.newly_declaration?_iff`, `ReaderOptions.skipped?_prototypes` — what accepting
  prototypes does to a line.
* `Interface.read_selects` — the same for whole texts.
* `Interface.read_inline_prototype` — a line that announces a function under all options.
-/

namespace LineShape

/-! ### Names and ends of signatures -/

/-- The two readers of names agree: a signature starts like one. -/
theorem candidateName?_of_signature? {line : Text} {d : Declaration} {terminator : Terminator}
    (h : signature? line = some (d, terminator)) : candidateName? line = some d.name := by
  obtain ⟨hd, gap, -, rfl⟩ := signature?_eq_some_iff.1 h
  exact candidateName?_eq_some_iff.2 ⟨d.returnType, _, rfl, .one hd.isReturnType,
    hd.name_ne_nil, hd.isWord_of_mem_name⟩

/-- No whitespace stands behind the terminator of a signature, so the reason is told by it. -/
theorem skipReason_of_signature? {line : Text} {d : Declaration}
    (h : signature? line = some (d, .semicolon)) : skipReason line = .forwardDeclaration := by
  obtain ⟨-, gap, -, rfl⟩ := signature?_eq_some_iff.1 h
  have hassoc : d.returnType ++ d.name ++ '(' :: (d.parameterList ++ ')' :: gap ++ [';'])
      = (d.returnType ++ d.name ++ '(' :: (d.parameterList ++ ')' :: gap)) ++ [';'] := by
    simp
  have hlast : ∀ t : Text, Text.trimEnd (t ++ [';']) = t ++ [';'] := by
    intro t
    have hsemicolon : Text.isWhitespace ';' = false := rfl
    simp [Text.trimEnd, Text.dropEndWhile, hsemicolon]
  unfold skipReason
  rw [show Terminator.semicolon.char = ';' from rfl, hassoc, hlast, List.getLast?_concat]
  rfl

end LineShape

namespace ReaderOptions

/-! ### What the prefix does to a line -/

/-- The same options with the empty prefix, under which every name is exported. -/
def anyName (o : ReaderOptions) : ReaderOptions :=
  { o with symbolPrefix := [] }

theorem exports_anyName (o : ReaderOptions) (name : Text) : o.anyName.exports name = true :=
  exports_iff.2 List.nil_prefix

/-- The prefix picks declarations by their names. -/
theorem declaration?_eq_filter (o : ReaderOptions) (line : Text) :
    o.declaration? line = (o.anyName.declaration? line).filter fun d => o.exports d.name := by
  unfold declaration?
  cases LineShape.signature? line with
  | none => rfl
  | some p =>
    obtain ⟨d, terminator⟩ := p
    have haccepts : o.anyName.accepts terminator = o.accepts terminator := by
      cases terminator <;> rfl
    simp only [haccepts, exports_anyName, Bool.and_true]
    cases o.accepts terminator with
    | false => rfl
    | true => simp [Option.filter]

/-- On a line with an exported name the prefix decides nothing more. -/
theorem declaration?_anyName {o : ReaderOptions} {line name : Text}
    (hname : LineShape.candidateName? line = some name) (hexports : o.exports name = true) :
    o.declaration? line = o.anyName.declaration? line := by
  rw [declaration?_eq_filter]
  cases hd : o.anyName.declaration? line with
  | none => rfl
  | some d =>
    obtain ⟨terminator, hsig, -, -⟩ := declaration?_eq_some_iff.1 hd
    have heq : d.name = name :=
      Option.some.inj ((LineShape.candidateName?_of_signature? hsig).symm.trans hname)
    simp [Option.filter, heq, hexports]

/-- The prefix picks near misses by the names of their lines. -/
theorem skipped?_eq_filter (o : ReaderOptions) (n : Nat) (line : Text) :
    o.skipped? n line = (o.anyName.skipped? n line).filter fun s =>
      (LineShape.candidateName? s.text).any o.exports := by
  unfold skipped?
  cases hname : LineShape.candidateName? line with
  | none => rfl
  | some name =>
    cases hexports : o.exports name with
    | false =>
      cases (o.anyName.declaration? line).isNone with
      | false => simp [exports_anyName, hexports]
      | true => simp [exports_anyName, Option.filter, hname, hexports]
    | true =>
      rw [declaration?_anyName hname hexports]
      cases (o.anyName.declaration? line).isNone with
      | false => simp [exports_anyName]
      | true => simp [exports_anyName, Option.filter, hname, hexports]

/-! ### What accepting prototypes does to a line -/

section Prototypes

variable {p line : Text} {d : Declaration}

/-- A definition is a declaration whether or not prototypes are. -/
theorem declaration?_of_definition (h : declaration? ⟨p, false⟩ line = some d) :
    declaration? ⟨p, true⟩ line = some d := by
  obtain ⟨terminator, hsig, haccepts, hexports⟩ := declaration?_eq_some_iff.1 h
  refine declaration?_eq_some_iff.2 ⟨terminator, hsig, ?_, hexports⟩
  cases terminator with
  | brace => rfl
  | semicolon => rfl

/-- What becomes a declaration only when prototypes do is a whole signature that ends in `;`. -/
theorem signature?_of_prototype (hnone : declaration? ⟨p, false⟩ line = none)
    (h : declaration? ⟨p, true⟩ line = some d) :
    LineShape.signature? line = some (d, .semicolon) := by
  obtain ⟨terminator, hsig, -, hexports⟩ := declaration?_eq_some_iff.1 h
  cases terminator with
  | semicolon => exact hsig
  | brace =>
    have hd : declaration? ⟨p, false⟩ line = some d :=
      declaration?_eq_some_iff.2 ⟨.brace, hsig, rfl, hexports⟩
    rw [hnone] at hd
    exact absurd hd (by simp)

/-- The lines that become declarations when prototypes do are those that are spelled as a
    declaration up to a `;`. -/
theorem newly_declaration?_iff :
    (declaration? ⟨p, true⟩ line = some d ∧ declaration? ⟨p, false⟩ line = none) ↔
      ∃ space, Spells ⟨p, true⟩ line d space ";".toList := by
  constructor
  · rintro ⟨h, hnone⟩
    obtain ⟨space, terminator, hspells⟩ := spells_of_declaration? h
    obtain ⟨t, hsig, -, rfl⟩ := hspells.signature?
    rw [signature?_of_prototype hnone h] at hsig
    obtain rfl : LineShape.Terminator.semicolon = t := (Prod.mk.inj (Option.some.inj hsig)).2
    exact ⟨space, hspells⟩
  · rintro ⟨space, hspells⟩
    refine ⟨hspells.declaration?, Option.eq_none_iff_forall_ne_some.2 fun e he => ?_⟩
    -- A definition would end in a brace.
    obtain ⟨space', terminator, hdefined⟩ := spells_of_declaration? he
    obtain rfl : terminator = "\x7b".toList := by simpa using hdefined.terminator_eq
    have hends := hspells.line_eq.symm.trans hdefined.line_eq
    exact absurd (List.append_inj' hends rfl).2 (by decide)

/-- Before prototypes are accepted, such a line is a near miss that announces a function. -/
theorem skipped?_of_prototype (hnone : declaration? ⟨p, false⟩ line = none)
    (h : declaration? ⟨p, true⟩ line = some d) (n : Nat) :
    skipped? ⟨p, false⟩ n line = some ⟨n, line, .forwardDeclaration⟩ := by
  have hsig := signature?_of_prototype hnone h
  obtain ⟨-, -, -, hexports⟩ := declaration?_eq_some_iff.1 h
  have hcandidate : Candidate ⟨p, false⟩ line :=
    candidate_iff.2 ⟨d.name, LineShape.candidateName?_of_signature? hsig, hexports⟩
  exact skipped?_eq_some_iff.2
    ⟨hcandidate, hnone, by rw [LineShape.skipReason_of_signature? hsig]⟩

/-- Accepting prototypes takes away the near misses that become declarations and no others. -/
theorem skipped?_prototypes (p : Text) (n : Nat) (line : Text) :
    skipped? ⟨p, true⟩ n line = (skipped? ⟨p, false⟩ n line).filter fun s =>
      (declaration? ⟨p, true⟩ s.text).isNone := by
  have hexports : ∀ name, exports ⟨p, true⟩ name = exports ⟨p, false⟩ name := fun _ => rfl
  unfold skipped?
  cases LineShape.candidateName? line with
  | none => rfl
  | some name =>
    simp only [hexports]
    cases hon : declaration? ⟨p, true⟩ line with
    | some d =>
      cases exports ⟨p, false⟩ name && (declaration? ⟨p, false⟩ line).isNone with
      | false => simp
      | true => simp [Option.filter, hon]
    | none =>
      have hoff : declaration? ⟨p, false⟩ line = none := by
        by_contra hne
        obtain ⟨d, hd⟩ := Option.ne_none_iff_exists'.1 hne
        rw [declaration?_of_definition hd] at hon
        exact absurd hon (by simp)
      cases hname : exports ⟨p, false⟩ name with
      | false => simp
      | true => simp [Option.filter, hon, hoff]

end Prototypes

end ReaderOptions

namespace Interface

/-! ### Whole texts -/

/-- The declarations of a text, each with the number of its line. -/
def declarationsByLine (o : ReaderOptions) (content : Text) : List (Nat × Declaration) :=
  numberedDeclarations o ((Text.lines content).zipIdx 1)

theorem declarations_read_eq_filter (o : ReaderOptions) (content : Text) :
    (read o content).declarations
      = (read o.anyName content).declarations.filter fun d => o.exports d.name := by
  show (Text.lines content).filterMap o.declaration?
    = ((Text.lines content).filterMap o.anyName.declaration?).filter _
  rw [List.filter_filterMap]
  exact List.filterMap_congr fun line _ => o.declaration?_eq_filter line

theorem skipped_read_eq_filter (o : ReaderOptions) (content : Text) :
    (read o content).skipped = (read o.anyName content).skipped.filter fun s =>
      (LineShape.candidateName? s.text).any o.exports := by
  show skippedFrom o 1 (Text.lines content) = (skippedFrom o.anyName 1 (Text.lines content)).filter _
  rw [skippedFrom_eq_filterMap, skippedFrom_eq_filterMap, List.filter_filterMap]
  exact List.filterMap_congr fun line _ => o.skipped?_eq_filter line.2 line.1

/-- A test that passes more gives a longer list and keeps the order. -/
theorem filterMap_sublist_filterMap {α β : Type} {f g : α → Option β}
    (h : ∀ x y, f x = some y → g x = some y) (l : List α) :
    List.Sublist (l.filterMap f) (l.filterMap g) := by
  induction l with
  | nil => exact .slnil
  | cons x l ih =>
    rw [List.filterMap_cons, List.filterMap_cons]
    cases hf : f x with
    | some y =>
      rw [h x y hf]
      exact ih.cons_cons y
    | none =>
      cases g x with
      | none => exact ih
      | some y => exact ih.cons y

theorem declarationsByLine_sublist (p content : Text) :
    List.Sublist (declarationsByLine ⟨p, false⟩ content) (declarationsByLine ⟨p, true⟩ content) := by
  refine filterMap_sublist_filterMap (fun line e h => ?_) _
  obtain ⟨d, hd, rfl⟩ := Option.map_eq_some_iff.1 h
  exact Option.map_eq_some_iff.2 ⟨d, ReaderOptions.declaration?_of_definition hd, rfl⟩

theorem skipped_read_prototypes (p content : Text) :
    (read ⟨p, true⟩ content).skipped = (read ⟨p, false⟩ content).skipped.filter fun s =>
      (ReaderOptions.declaration? ⟨p, true⟩ s.text).isNone := by
  show skippedFrom _ 1 (Text.lines content) = (skippedFrom _ 1 (Text.lines content)).filter _
  rw [skippedFrom_eq_filterMap, skippedFrom_eq_filterMap, List.filter_filterMap]
  exact List.filterMap_congr fun line _ => ReaderOptions.skipped?_prototypes p line.2 line.1

/-- A line is declared exactly if it is read as a declaration. -/
theorem mem_declarationsByLine_iff {o : ReaderOptions} {content line : Text} {n : Nat}
    (hline : content.lineAt? n = some line) :
    n ∈ (declarationsByLine o content).map Prod.fst ↔ o.declaration? line ≠ none := by
  unfold declarationsByLine
  rw [mem_lineNumbers_declared, Option.ne_none_iff_exists']
  constructor
  · rintro ⟨line', d, hline', hd⟩
    obtain rfl : line = line' := Option.some.inj (hline.symm.trans hline')
    exact ⟨d, hd⟩
  · rintro ⟨d, hd⟩
    exact ⟨line, d, hline, hd⟩

/-- The newly declared lines are the whole prototypes of the text. -/
theorem newly_declared_iff_spells (p content : Text) (n : Nat) (d : Declaration) :
    ((n, d) ∈ declarationsByLine ⟨p, true⟩ content ∧
        n ∉ (declarationsByLine ⟨p, false⟩ content).map Prod.fst) ↔
      ∃ line space, content.lineAt? n = some line ∧
        ReaderOptions.Spells ⟨p, true⟩ line d space ";".toList := by
  constructor
  · rintro ⟨hdeclared, hnot⟩
    obtain ⟨line, hmem, hd⟩ := mem_numberedDeclarations.1 hdeclared
    have hline := Text.mem_zipIdx_lines.1 hmem
    rw [mem_declarationsByLine_iff hline, not_not] at hnot
    obtain ⟨space, hspells⟩ := ReaderOptions.newly_declaration?_iff.1 ⟨hd, hnot⟩
    exact ⟨line, space, hline, hspells⟩
  · rintro ⟨line, space, hline, hspells⟩
    obtain ⟨hd, hnone⟩ := ReaderOptions.newly_declaration?_iff.2 ⟨space, hspells⟩
    refine ⟨mem_numberedDeclarations.2 ⟨line, Text.mem_zipIdx_lines.2 hline, hd⟩, ?_⟩
    rwa [mem_declarationsByLine_iff hline, not_not]

/-- All of them were skipped because they merely announce a function. -/
theorem newly_declared_iff (p content : Text) (n : Nat) (d : Declaration) :
    ((n, d) ∈ declarationsByLine ⟨p, true⟩ content ∧
        n ∉ (declarationsByLine ⟨p, false⟩ content).map Prod.fst) ↔
      ∃ s ∈ (read ⟨p, false⟩ content).skipped, s.lineNumber = n ∧
        s.reason = .forwardDeclaration ∧
        ∃ space, ReaderOptions.Spells ⟨p, true⟩ s.text d space ";".toList := by
  rw [newly_declared_iff_spells]
  constructor
  · rintro ⟨line, space, hline, hspells⟩
    obtain ⟨hd, hnone⟩ := ReaderOptions.newly_declaration?_iff.2 ⟨space, hspells⟩
    obtain ⟨hcandidate, -, hreason⟩ := ReaderOptions.skipped?_eq_some_iff.1
      (ReaderOptions.skipped?_of_prototype hnone hd n)
    refine ⟨⟨n, line, .forwardDeclaration⟩, ?_, rfl, rfl, space, hspells⟩
    exact (mem_skipped_read _ _).2 ⟨hline, hcandidate, hnone, congrArg SkippedLine.reason hreason⟩
  · rintro ⟨s, hs, rfl, -, space, hspells⟩
    obtain ⟨hline, -, -, -⟩ := (mem_skipped_read _ _).1 hs
    exact ⟨s.text, space, hline, hspells⟩

/-- The near misses that stay are those on lines that are not declared. -/
theorem skipped_read_eq_undeclared (p content : Text) :
    (read ⟨p, true⟩ content).skipped = (read ⟨p, false⟩ content).skipped.filter fun s =>
      s.lineNumber ∉ (declarationsByLine ⟨p, true⟩ content).map Prod.fst := by
  rw [skipped_read_prototypes]
  refine List.filter_congr fun s hs => ?_
  obtain ⟨hline, -, -, -⟩ := (mem_skipped_read _ _).1 hs
  rw [Bool.eq_iff_iff, decide_eq_true_iff, mem_declarationsByLine_iff hline, not_not,
    Option.isNone_iff_eq_none]

/-- **The options of the reader only select lines.**  The include and typedef lines of a text are the
    same under all options.  The declarations under a prefix are those under the empty prefix whose
    name begins with it, and the near misses under a prefix are those under the empty prefix whose
    candidate name does.  Accepting prototypes keeps every declaration on its line and in its order;
    the lines declared only then are those that were skipped as announcing a function and are
    spelled as a declaration with a `;` at the very end.  Every line spelled so is one of them, and
    all other near misses stay as they were. -/
theorem read_selects (content : Text) :
    (∀ o o' : ReaderOptions, (read o content).includes = (read o' content).includes ∧
      (read o content).typedefs = (read o' content).typedefs) ∧
    (∀ (p : Text) (prototypes : Bool),
      (read ⟨p, prototypes⟩ content).declarations
        = (read ⟨[], prototypes⟩ content).declarations.filter (fun d => Text.startsWith d.name p) ∧
      (read ⟨p, prototypes⟩ content).skipped
        = (read ⟨[], prototypes⟩ content).skipped.filter (fun s =>
            (LineShape.candidateName? s.text).any (fun name => Text.startsWith name p))) ∧
    ∀ p : Text,
      (∀ prototypes, (declarationsByLine ⟨p, prototypes⟩ content).map Prod.snd
        = (read ⟨p, prototypes⟩ content).declarations) ∧
      List.Sublist (declarationsByLine ⟨p, false⟩ content) (declarationsByLine ⟨p, true⟩ content) ∧
      List.Sublist (read ⟨p, false⟩ content).declarations (read ⟨p, true⟩ content).declarations ∧
      (∀ n d, ((n, d) ∈ declarationsByLine ⟨p, true⟩ content ∧
          n ∉ (declarationsByLine ⟨p, false⟩ content).map Prod.fst) ↔
        ∃ s ∈ (read ⟨p, false⟩ content).skipped, s.lineNumber = n ∧
          s.reason = .forwardDeclaration ∧
          ∃ space, ReaderOptions.Spells ⟨p, true⟩ s.text d space ";".toList) ∧
      (∀ n d, ((n, d) ∈ declarationsByLine ⟨p, true⟩ content ∧
          n ∉ (declarationsByLine ⟨p, false⟩ content).map Prod.fst) ↔
        ∃ line space, content.lineAt? n = some line ∧
          ReaderOptions.Spells ⟨p, true⟩ line d space ";".toList) ∧
      (read ⟨p, true⟩ content).skipped = (read ⟨p, false⟩ content).skipped.filter (fun s =>
        s.lineNumber ∉ (declarationsByLine ⟨p, true⟩ content).map Prod.fst) := by
  refine ⟨fun o o' => ⟨rfl, rfl⟩, fun p prototypes => ⟨?_, ?_⟩, fun p => ?_⟩
  · exact declarations_read_eq_filter ⟨p, prototypes⟩ content
  · exact skipped_read_eq_filter ⟨p, prototypes⟩ content
  · have hlines : ∀ prototypes, (declarationsByLine ⟨p, prototypes⟩ content).map Prod.snd
        = (read ⟨p, prototypes⟩ content).declarations :=
      fun prototypes => map_snd_numberedDeclarations ⟨p, prototypes⟩ 1 _
    have hsublist := declarationsByLine_sublist p content
    refine ⟨hlines, hsublist, ?_, newly_declared_iff p content, newly_declared_iff_spells p content,
      skipped_read_eq_undeclared p content⟩
    rw [← hlines false, ← hlines true]
    exact hsublist.map Prod.snd

/-- A prototype with a specifier in front of its type is announced and never declared, so the newly
    declared lines are not all the lines that were skipped for announcing a function. -/
theorem read_inline_prototype :
    let content := "inline void QTS_B(int x);\n".toList
    let p := "QTS_".toList
    (∀ prototypes, (read ⟨p, prototypes⟩ content).declarations = [] ∧
      (read ⟨p, prototypes⟩ content).skipped
        = [⟨1, "inline void QTS_B(int x);".toList, .forwardDeclaration⟩]) ∧
    ¬ ∀ n, (n ∈ (declarationsByLine ⟨p, true⟩ content).map Prod.fst ∧
        n ∉ (declarationsByLine ⟨p, false⟩ content).map Prod.fst) ↔
      ∃ s ∈ (read ⟨p, false⟩ content).skipped, s.lineNumber = n ∧
        s.reason = .forwardDeclaration := by
  intro content p
  have hskipped : ∀ prototypes, (read ⟨p, prototypes⟩ content).skipped
      = [⟨1, "inline void QTS_B(int x);".toList, .forwardDeclaration⟩] := by
    decide
  have hdeclared : ∀ prototypes, declarationsByLine ⟨p, prototypes⟩ content = [] := by
    decide
  refine ⟨fun prototypes => ⟨?_, hskipped prototypes⟩, fun h => ?_⟩
  · revert prototypes
    decide
  · have hfirst := (h 1).2
    rw [hskipped, hdeclared] at hfirst
    simp at hfirst

end Interface

end CInterface
