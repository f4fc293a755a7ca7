import CInterface.Proofs.Candidates

namespace CInterface

/-!
# Interfaces — carriage returns in captured lines

The lines that an interface keeps as written: its includes, its typedefs and its near misses.  A
line end takes one carriage return with it and no more, and the end of the text takes none, so a
captured line can end in one.

* `Interface.captured` — the lines that are kept as written.
* `ReaderOptions.Captures` — the shapes of those lines.
* `Interface.mem_captured_read` — they are the lines of these shapes.
* `Interface.captured_without_carriageReturn_iff` — when none of them ends in a carriage return.
-/

/-- The lines that an interface keeps as written. -/
def Interface.captured (i : Interface) : List Text :=
  i.includes ++ i.typedefs ++ i.skipped.map SkippedLine.text

/-- A line that is kept as written: an include, a typedef, or a candidate that is no declaration. -/
def ReaderOptions.Captures (o : ReaderOptions) (line : Text) : Prop :=
  LineShape.isInclude line = true ∨ LineShape.isTypedef line = true ∨
    o.Candidate line ∧ o.declaration? line = none

namespace ReaderOptions

variable {o : ReaderOptions} {line : Text}

/-- A line that ends in a carriage return is no declaration: it would have to end in a
    terminator. -/
theorem declaration?_carriageReturn : o.declaration? (line ++ ['\r']) = none := by
  by_contra hne
  obtain ⟨d, hd⟩ := Option.ne_none_iff_exists'.1 hne
  obtain ⟨terminator, hsig, -, -⟩ := declaration?_eq_some_iff.1 hd
  obtain ⟨-, gap, -, heq⟩ := LineShape.signature?_eq_some_iff.1 hsig
  have hassoc : d.returnType ++ d.name ++ '(' :: (d.parameterList ++ ')' :: gap ++ [terminator.char])
      = (d.returnType ++ d.name ++ '(' :: (d.parameterList ++ ')' :: gap)) ++ [terminator.char] := by
    simp
  -- Spelled out, a declaration ends in its terminator.
  have hlast : terminator.char = '\r' := by
    rw [hassoc] at heq
    exact (List.append_singleton_inj.1 heq).2.symm
  cases terminator with
  | brace => exact absurd hlast (by decide)
  | semicolon => exact absurd hlast (by decide)

theorem captures_carriageReturn_iff :
    o.Captures (line ++ ['\r']) ↔ LineShape.isInclude (line ++ ['\r']) = true ∨
      LineShape.isTypedef (line ++ ['\r']) = true ∨ o.Candidate (line ++ ['\r']) := by
  unfold Captures
  rw [declaration?_carriageReturn]
  simp only [and_true]

end ReaderOptions

/-- What has a number is a line of the text. -/
theorem Text.mem_lines_iff_lineAt? {t line : Text} :
    line ∈ Text.lines t ↔ ∃ n, t.lineAt? n = some line := by
  rw [List.mem_iff_getElem?]
  constructor
  · rintro ⟨n, hn⟩
    exact ⟨n + 1, hn⟩
  · rintro ⟨n, hn⟩
    cases n with
    | zero => simp [lineAt?] at hn
    | succ n => exact ⟨n, hn⟩

namespace Interface

/-- The captured lines are the lines of a captured shape. -/
theorem mem_captured_read {o : ReaderOptions} {content line : Text} :
    line ∈ (read o content).captured ↔ line ∈ Text.lines content ∧ o.Captures line := by
  have hskipped : line ∈ (read o content).skipped.map SkippedLine.text ↔
      line ∈ Text.lines content ∧ o.Candidate line ∧ o.declaration? line = none := by
    rw [List.mem_map]
    constructor
    · rintro ⟨s, hs, rfl⟩
      obtain ⟨hline, hcand, hnone, -⟩ := (mem_skipped_read o content).1 hs
      exact ⟨Text.mem_lines_iff_lineAt?.2 ⟨_, hline⟩, hcand, hnone⟩
    · rintro ⟨hmem, hcand, hnone⟩
      obtain ⟨n, hn⟩ := Text.mem_lines_iff_lineAt?.1 hmem
      exact ⟨⟨n, line, LineShape.skipReason line⟩,
        (mem_skipped_read o content).2 ⟨hn, hcand, hnone, rfl⟩, rfl⟩
  have hincludes : (read o content).includes = (Text.lines content).filter LineShape.isInclude := rfl
  have htypedefs : (read o content).typedefs = (Text.lines content).filter LineShape.isTypedef := rfl
  rw [captured, List.mem_append, List.mem_append, hskipped, hincludes, htypedefs, List.mem_filter,
    List.mem_filter, ReaderOptions.Captures, and_or_left, and_or_left, or_assoc]

/-- **Carriage returns in captured lines.**  No captured line ends in a carriage return exactly if no
    include, typedef or candidate that ends in one stands in front of a carriage return and a line
    feed, or at the end of the text. -/
theorem captured_without_carriageReturn_iff (o : ReaderOptions) (content : Text) :
    (∀ line ∈ (read o content).captured, line.getLast? ≠ some '\r') ↔
      ∀ before line behind, content = before ++ (line ++ ['\r']) ++ behind →
        Text.Terminated before → '\n' ∉ line →
        (behind = [] ∨ ∃ rest, behind = '\r' :: '\n' :: rest) →
        ¬ (LineShape.isInclude (line ++ ['\r']) = true ∨
          LineShape.isTypedef (line ++ ['\r']) = true ∨ o.Candidate (line ++ ['\r'])) := by
  constructor
  · intro h before line behind heq hbefore hline hbehind hshape
    have hends : Text.EndsBefore (line ++ ['\r']) behind := by
      rcases hbehind with hnil | hcrlf
      · exact .inl ⟨by simp, hnil⟩
      · exact .inr (.inr hcrlf)
    have hmem : line ++ ['\r'] ∈ Text.lines content :=
      Text.mem_lines_iff.2 ⟨before, behind, heq, hbefore, by simp [hline], hends⟩
    have hcaptured := mem_captured_read.2
      ⟨hmem, ReaderOptions.captures_carriageReturn_iff.2 hshape⟩
    exact h _ hcaptured List.getLast?_concat
  · intro h line hcaptured hlast
    obtain ⟨hmem, hcaptures⟩ := mem_captured_read.1 hcaptured
    obtain ⟨front, rfl⟩ := List.getLast?_eq_some_iff.1 hlast
    obtain ⟨before, behind, heq, hbefore, hline, hends⟩ := Text.mem_lines_iff.1 hmem
    -- A line feed right behind it would have taken the carriage return with it.
    have hbehind : behind = [] ∨ ∃ rest, behind = '\r' :: '\n' :: rest := by
      rcases hends with ⟨-, hnil⟩ | ⟨hne, -⟩ | hcrlf
      · exact .inl hnil
      · exact absurd hlast hne
      · exact .inr hcrlf
    have hfront : '\n' ∉ front := fun hmem => hline (List.mem_append_left _ hmem)
    exact h before front behind heq hbefore hfront hbehind
      (ReaderOptions.captures_carriageReturn_iff.1 hcaptures)

/-- An include line at the end of a text keeps its carriage return. -/
theorem captured_unterminated_include :
    ¬ ∀ (o : ReaderOptions) (content : Text), ∀ line ∈ (read o content).captured,
      line.getLast? ≠ some '\r' := by
  intro h
  exact h {} "#include <a.h>\r".toList "#include <a.h>\r".toList (by decide) (by decide)

end Interface

end CInterface
