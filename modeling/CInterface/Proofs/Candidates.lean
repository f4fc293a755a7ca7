import CInterface.Proofs.DeclarationGrammar
import Mathlib.Data.List.Basic

namespace CInterface

/-!
# Interfaces — candidates

A line that starts like the signature of an exported function is a candidate.  Declarations and
near misses are collected in two passes over the lines, by two different tests; together they
account for every candidate once, and for nothing else.

* `LineShape.candidateName?_eq_some_iff` — a candidate's name and the stretches in front of it.
* `ReaderOptions.Candidate` — the lines that start like the signature of an exported function.
* `ReaderOptions.candidate_of_declaration?`, `ReaderOptions.skipped?_eq_some_iff` — a declaration
  is a candidate, and a near miss is a candidate that is no declaration.
* `Interface.candidates_read` — which lines the declarations and the near misses come from.
-/

namespace LineShape

/-! ### The name of a candidate -/

/-- A candidate's name stands between one or more stretches of type and gap characters and the
    first parenthesis. -/
theorem candidateName?_eq_some_iff {line name : Text} :
    candidateName? line = some name ↔ ∃ lead rest, line = lead ++ name ++ '(' :: rest ∧
      SpellsLeadIn lead ∧ name ≠ [] ∧ ∀ c ∈ name, Text.isWord c = true := by
  constructor
  · intro h
    simp only [candidateName?, Option.bind_eq_bind, Option.bind_eq_some_iff] at h
    obtain ⟨⟨front, rest⟩, hsplit, h⟩ := h
    obtain ⟨rfl, -⟩ := splitAtParen?_eq_some_iff.1 hsplit
    split at h
    · exact absurd h (by simp)
    · next hguard =>
      obtain rfl := Option.some.inj h
      have hparts : Text.takeEndWhile Text.isWord front ≠ [] ∧
          isLeadIn (Text.dropEndWhile Text.isWord front) = true := by
        simpa using hguard
      exact ⟨Text.dropEndWhile Text.isWord front, rest, by simp, isLeadIn_iff_spells.1 hparts.2,
        hparts.1, fun c hc => Text.of_mem_takeEndWhile hc⟩
  · rintro ⟨lead, rest, rfl, hspells, hne, hword⟩
    have hlead := isLeadIn_iff_spells.2 hspells
    obtain ⟨hsplit, hname, hfront⟩ := split_leadIn_name hlead hword rest
    simp only [candidateName?, hsplit, Option.bind_eq_bind, Option.bind_some, hname, hfront]
    simp [hne, hlead]

end LineShape

namespace ReaderOptions

/-! ### Candidates -/

/-- The text in front of the first parenthesis of a line, cut into what leads to the name and the
    name.  It consists of word characters, stars and blanks, and it begins with no blank.  The name
    is a word that begins with the prefix of exported names, and since a blank or a star stands in
    front of it, no longer word ends where the name ends. -/
structure CandidateParts (o : ReaderOptions) (line lead name rest : Text) : Prop where
  line_eq : line = lead ++ name ++ '(' :: rest
  openParen_not_mem : '(' ∉ lead ++ name
  front_chars : ∀ c ∈ lead ++ name, Text.isWord c = true ∨ c = '*' ∨ c = ' ' ∨ c = '\t'
  front_starts : ∃ c, (lead ++ name).head? = some c ∧ (Text.isWord c = true ∨ c = '*')
  name_ne_nil : name ≠ []
  isWord_of_mem_name : ∀ c ∈ name, Text.isWord c = true
  name_starts : o.symbolPrefix <+: name
  two_le_length_lead : 2 ≤ lead.length
  lead_ends : ∃ c, lead.getLast? = some c ∧ (c = ' ' ∨ c = '\t' ∨ c = '*')

/-- A line that starts like the signature of an exported function. -/
def Candidate (o : ReaderOptions) (line : Text) : Prop :=
  ∃ lead name rest, o.CandidateParts line lead name rest

variable {o : ReaderOptions} {line : Text}

theorem CandidateParts.spellsLeadIn {lead name rest : Text}
    (h : o.CandidateParts line lead name rest) : LineShape.SpellsLeadIn lead := by
  obtain ⟨first, hhead, hfirst⟩ := h.front_starts
  obtain ⟨last, hlast, hends⟩ := h.lead_ends
  have hlead : lead ≠ [] := by
    rintro rfl
    simp at hlast
  have hfront : lead.head? = some first := by
    rwa [List.head?_append_of_ne_nil lead hlead] at hhead
  refine LineShape.isLeadIn_iff_spells.1 (LineShape.isLeadIn_iff.2
    ⟨⟨first, hfront, LineShape.isTypeChar_iff.2 hfirst⟩, ?_,
      ⟨last, hlast, LineShape.isGapChar_iff.2 hends⟩, h.two_le_length_lead⟩)
  intro c hc
  rw [LineShape.isTypeChar_iff, LineShape.isGapChar_iff]
  rcases h.front_chars c (List.mem_append_left name hc) with hc | hc | hc | hc
  · exact .inl (.inl hc)
  · exact .inl (.inr hc)
  · exact .inr (.inl hc)
  · exact .inr (.inr (.inl hc))

theorem candidateParts_of_spellsLeadIn {lead name rest : Text}
    (hlead : LineShape.SpellsLeadIn lead) (hname : name ≠ [])
    (hword : ∀ c ∈ name, Text.isWord c = true) (hexports : o.exports name = true) :
    o.CandidateParts (lead ++ name ++ '(' :: rest) lead name rest := by
  obtain ⟨⟨first, hhead, hfirst⟩, hchars, ⟨last, hlast, hends⟩, hlength⟩ :=
    LineShape.isLeadIn_iff.1 (LineShape.isLeadIn_iff_spells.2 hlead)
  have hfront : ∀ c ∈ lead ++ name, Text.isWord c = true ∨ c = '*' ∨ c = ' ' ∨ c = '\t' := by
    intro c hc
    rcases List.mem_append.1 hc with hc | hc
    · rcases hchars c hc with hc | hc
      · exact (LineShape.isTypeChar_iff.1 hc).imp_right .inl
      · rcases LineShape.isGapChar_iff.1 hc with hc | hc | hc
        · exact .inr (.inr (.inl hc))
        · exact .inr (.inr (.inr hc))
        · exact .inr (.inl hc)
    · exact .inl (hword c hc)
  exact
    { line_eq := rfl
      openParen_not_mem := fun hmem => absurd (hfront _ hmem) (by decide)
      front_chars := hfront
      front_starts := ⟨first, by simp [hhead], LineShape.isTypeChar_iff.1 hfirst⟩
      name_ne_nil := hname
      isWord_of_mem_name := hword
      name_starts := exports_iff.1 hexports
      two_le_length_lead := hlength
      lead_ends := ⟨last, hlast, LineShape.isGapChar_iff.1 hends⟩ }

/-- The candidates are the lines whose candidate name is exported. -/
theorem candidate_iff :
    o.Candidate line ↔ ∃ name, LineShape.candidateName? line = some name ∧
      o.exports name = true := by
  constructor
  · rintro ⟨lead, name, rest, h⟩
    exact ⟨name, LineShape.candidateName?_eq_some_iff.2 ⟨lead, rest, h.line_eq, h.spellsLeadIn,
      h.name_ne_nil, h.isWord_of_mem_name⟩, exports_iff.2 h.name_starts⟩
  · rintro ⟨name, hname, hexports⟩
    obtain ⟨lead, rest, rfl, hlead, hne, hword⟩ := LineShape.candidateName?_eq_some_iff.1 hname
    exact ⟨lead, name, rest, candidateParts_of_spellsLeadIn hlead hne hword hexports⟩

/-! ### What becomes of a candidate -/

/-- A declaration is a candidate, with its return type in front of the same name. -/
theorem candidate_of_declaration? {d : Declaration} (h : o.declaration? line = some d) :
    o.Candidate line := by
  obtain ⟨terminator, hsig, -, hexports⟩ := declaration?_eq_some_iff.1 h
  obtain ⟨hd, gap, -, rfl⟩ := LineShape.signature?_eq_some_iff.1 hsig
  exact ⟨_, _, _, candidateParts_of_spellsLeadIn (.one hd.isReturnType) hd.name_ne_nil
    hd.isWord_of_mem_name hexports⟩

/-- A near miss is a candidate that is no declaration. -/
theorem skipped?_eq_some_iff {n : Nat} {s : SkippedLine} :
    o.skipped? n line = some s ↔ o.Candidate line ∧ o.declaration? line = none ∧
      s = { lineNumber := n, text := line, reason := LineShape.skipReason line } := by
  rw [candidate_iff]
  constructor
  · intro h
    rw [skipped?] at h
    split at h
    · exact absurd h (by simp)
    · next name hname =>
      split at h
      · next hguard =>
        obtain ⟨hexports, hnone⟩ : o.exports name = true ∧ o.declaration? line = none := by
          simpa using hguard
        exact ⟨⟨name, hname, hexports⟩, hnone, (Option.some.inj h).symm⟩
      · exact absurd h (by simp)
  · rintro ⟨⟨name, hname, hexports⟩, hnone, rfl⟩
    simp [skipped?, hname, hexports, hnone]

end ReaderOptions

/-! ### Numbered lines -/

/-- The line of a text with a number; the first line has the number one. -/
def Text.lineAt? (t : Text) : Nat → Option Text
  | 0 => none
  | n + 1 => (Text.lines t)[n]?

/-- The numbered lines of a text. -/
theorem Text.mem_zipIdx_lines {t line : Text} {n : Nat} :
    (line, n) ∈ (Text.lines t).zipIdx 1 ↔ t.lineAt? n = some line := by
  rw [List.mk_mem_zipIdx_iff_le_and_getElem?_sub]
  cases n with
  | zero => simp [lineAt?]
  | succ n => simp [lineAt?]

/-- Lines are numbered in order. -/
theorem pairwise_zipIdx {α : Type} (lines : List α) (start : Nat) :
    (lines.zipIdx start).Pairwise fun p q => p.2 < q.2 := by
  have hnumbers : ((lines.zipIdx start).map Prod.snd).Pairwise (· < ·) := by
    rw [List.zipIdx_map_snd]
    exact List.pairwise_lt_range' 1
  exact List.pairwise_map.1 hnumbers

namespace Interface

/-- The near misses are those of the numbered lines. -/
theorem skippedFrom_eq_filterMap (o : ReaderOptions) (start : Nat) (lines : List Text) :
    skippedFrom o start lines = (lines.zipIdx start).filterMap fun p => o.skipped? p.2 p.1 := by
  induction lines generalizing start with
  | nil => rfl
  | cons line rest ih =>
    rw [skippedFrom, ih, List.zipIdx_cons, List.filterMap_cons]
    cases o.skipped? start line with
    | none => rfl
    | some s => rfl

/-- The declarations among numbered lines, each with its line number. -/
def numberedDeclarations (o : ReaderOptions) (lines : List (Text × Nat)) :
    List (Nat × Declaration) :=
  lines.filterMap fun p => (o.declaration? p.1).map (p.2, ·)

theorem mem_numberedDeclarations {o : ReaderOptions} {lines : List (Text × Nat)} {n : Nat}
    {d : Declaration} :
    (n, d) ∈ numberedDeclarations o lines ↔
      ∃ line, (line, n) ∈ lines ∧ o.declaration? line = some d := by
  simp only [numberedDeclarations, List.mem_filterMap, Option.map_eq_some_iff, Prod.mk.injEq,
    Prod.exists]
  constructor
  · rintro ⟨line, n, hmem, d, hd, rfl, rfl⟩
    exact ⟨line, hmem, hd⟩
  · rintro ⟨line, hmem, hd⟩
    exact ⟨line, n, hmem, d, hd, rfl, rfl⟩

/-- Without their numbers they are the declarations of the lines. -/
theorem map_snd_numberedDeclarations (o : ReaderOptions) (start : Nat) (lines : List Text) :
    (numberedDeclarations o (lines.zipIdx start)).map Prod.snd
      = lines.filterMap o.declaration? := by
  induction lines generalizing start with
  | nil => rfl
  | cons line rest ih =>
    have hrest := ih (start + 1)
    rw [numberedDeclarations] at hrest ⊢
    rw [List.zipIdx_cons, List.filterMap_cons, List.filterMap_cons]
    cases o.declaration? line with
    | none => exact hrest
    | some d => exact congrArg (d :: ·) hrest

/-! ### The candidates of a text -/

section Read

variable (o : ReaderOptions) (content : Text)

theorem pairwise_numberedDeclarations {lines : List (Text × Nat)}
    (h : lines.Pairwise fun p q => p.2 < q.2) :
    (numberedDeclarations o lines).Pairwise fun p q => p.1 < q.1 := by
  refine h.filterMap _ fun p q hlt p' hp q' hq => ?_
  obtain ⟨d, -, rfl⟩ := Option.map_eq_some_iff.1 hp
  obtain ⟨e, -, rfl⟩ := Option.map_eq_some_iff.1 hq
  exact hlt

/-- A declaration has the number of a line that is read as one. -/
theorem mem_lineNumbers_declared {n : Nat} :
    n ∈ (numberedDeclarations o ((Text.lines content).zipIdx 1)).map Prod.fst ↔
      ∃ line d, content.lineAt? n = some line ∧ o.declaration? line = some d := by
  rw [List.mem_map]
  constructor
  · rintro ⟨⟨n, d⟩, hmem, rfl⟩
    obtain ⟨line, hline, hd⟩ := mem_numberedDeclarations.1 hmem
    exact ⟨line, d, Text.mem_zipIdx_lines.1 hline, hd⟩
  · rintro ⟨line, d, hline, hd⟩
    exact ⟨(n, d), mem_numberedDeclarations.2 ⟨line, Text.mem_zipIdx_lines.2 hline, hd⟩, rfl⟩

/-- The near misses of a text, each with its line. -/
theorem mem_skipped_read {s : SkippedLine} :
    s ∈ (read o content).skipped ↔ content.lineAt? s.lineNumber = some s.text ∧
      o.Candidate s.text ∧ o.declaration? s.text = none ∧
      s.reason = LineShape.skipReason s.text := by
  show s ∈ skippedFrom o 1 (Text.lines content) ↔ _
  rw [skippedFrom_eq_filterMap, List.mem_filterMap]
  constructor
  · rintro ⟨⟨line, n⟩, hmem, hs⟩
    obtain ⟨hcand, hnone, rfl⟩ := ReaderOptions.skipped?_eq_some_iff.1 hs
    exact ⟨Text.mem_zipIdx_lines.1 hmem, hcand, hnone, rfl⟩
  · rintro ⟨hline, hcand, hnone, hreason⟩
    refine ⟨(s.text, s.lineNumber), Text.mem_zipIdx_lines.2 hline,
      ReaderOptions.skipped?_eq_some_iff.2 ⟨hcand, hnone, ?_⟩⟩
    rw [← hreason]

theorem pairwise_skipped_read :
    (read o content).skipped.Pairwise fun s t => s.lineNumber < t.lineNumber := by
  show (skippedFrom o 1 (Text.lines content)).Pairwise _
  rw [skippedFrom_eq_filterMap]
  refine (pairwise_zipIdx _ 1).filterMap _ fun p q hlt s hs t ht => ?_
  obtain ⟨-, -, rfl⟩ := ReaderOptions.skipped?_eq_some_iff.1 hs
  obtain ⟨-, -, rfl⟩ := ReaderOptions.skipped?_eq_some_iff.1 ht
  exact hlt

/-- A near miss carries the number of a candidate that is no declaration. -/
theorem mem_lineNumbers_skipped {n : Nat} :
    n ∈ (read o content).skipped.map SkippedLine.lineNumber ↔
      ∃ line, content.lineAt? n = some line ∧ o.Candidate line ∧ o.declaration? line = none := by
  rw [List.mem_map]
  constructor
  · rintro ⟨s, hs, rfl⟩
    obtain ⟨hline, hcand, hnone, -⟩ := (mem_skipped_read o content).1 hs
    exact ⟨s.text, hline, hcand, hnone⟩
  · rintro ⟨line, hline, hcand, hnone⟩
    exact ⟨⟨n, line, LineShape.skipReason line⟩,
      (mem_skipped_read o content).2 ⟨hline, hcand, hnone, rfl⟩, rfl⟩

end Read

/-- **No candidate is lost or counted twice.**  The declarations of a text can be numbered so that
    each is spelled by the line of its number, and the near misses carry the numbers of their own
    lines, which spell no declaration.  Both lists are in source order, no number occurs twice, and
    together the numbers are those of the candidates. -/
theorem candidates_read (o : ReaderOptions) (content : Text) :
    ∃ declared : List (Nat × Declaration),
      (declared.map Prod.snd = (read o content).declarations ∧
        declared.Pairwise (fun p q => p.1 < q.1) ∧
        ∀ p ∈ declared, ∃ line space terminator, content.lineAt? p.1 = some line ∧
          o.Spells line p.2 space terminator) ∧
      ((read o content).skipped.Pairwise (fun s t => s.lineNumber < t.lineNumber) ∧
        ∀ s ∈ (read o content).skipped, content.lineAt? s.lineNumber = some s.text ∧
          ∀ d space terminator, ¬ o.Spells s.text d space terminator) ∧
      (∀ n, (∃ line, content.lineAt? n = some line ∧ o.Candidate line) ↔
        n ∈ declared.map Prod.fst ∨ n ∈ (read o content).skipped.map SkippedLine.lineNumber) ∧
      ∀ n ∈ declared.map Prod.fst, n ∉ (read o content).skipped.map SkippedLine.lineNumber := by
  refine ⟨numberedDeclarations o ((Text.lines content).zipIdx 1),
    ⟨map_snd_numberedDeclarations o 1 _, pairwise_numberedDeclarations o (pairwise_zipIdx _ 1), ?_⟩,
    ⟨pairwise_skipped_read o content, ?_⟩, ?_, ?_⟩
  · rintro ⟨n, d⟩ hmem
    obtain ⟨line, hline, hd⟩ := mem_numberedDeclarations.1 hmem
    obtain ⟨space, terminator, hspells⟩ := ReaderOptions.spells_of_declaration? hd
    exact ⟨line, space, terminator, Text.mem_zipIdx_lines.1 hline, hspells⟩
  · intro s hs
    obtain ⟨hline, -, hnone, -⟩ := (mem_skipped_read o content).1 hs
    refine ⟨hline, fun d space terminator hspells => ?_⟩
    rw [hspells.declaration?] at hnone
    exact absurd hnone (by simp)
  · intro n
    rw [mem_lineNumbers_declared, mem_lineNumbers_skipped]
    constructor
    · rintro ⟨line, hline, hcand⟩
      cases hd : o.declaration? line with
      | some d => exact .inl ⟨line, d, hline, hd⟩
      | none => exact .inr ⟨line, hline, hcand, hd⟩
    · rintro (⟨line, d, hline, hd⟩ | ⟨line, hline, hcand, -⟩)
      · exact ⟨line, hline, ReaderOptions.candidate_of_declaration? hd⟩
      · exact ⟨line, hline, hcand⟩
  · intro n hdeclared hskipped
    obtain ⟨line, d, hline, hd⟩ := (mem_lineNumbers_declared o content).1 hdeclared
    obtain ⟨line', hline', -, hnone⟩ := (mem_lineNumbers_skipped o content).1 hskipped
    -- One number has one line, and that line cannot both be read as a declaration and not be.
    obtain rfl : line = line' := Option.some.inj (hline.symm.trans hline')
    rw [hd] at hnone
    exact absurd hnone (by simp)

end Interface

end CInterface
