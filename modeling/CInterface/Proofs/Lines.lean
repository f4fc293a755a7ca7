import CInterface.Text.Lines
import Mathlib.Data.List.Basic

namespace CInterface.Text

/-!
# Text — laws of lines

How cutting a text into lines goes together with putting texts one behind the other.

* `splitOn_append_cons`, `splitOn_joinWith` — cutting at a separator undoes joining with it.
* `dropCarriageReturn_append` — only the last part of a text can lose a carriage return.
* `lines_append` — behind a text that is `Terminated` the lines start afresh.
* `length_lines` — a terminated text has one line per line feed.
* `newline_not_mem_of_mem_lines` — a line holds no line feed.
* `mem_lines_iff` — the lines of a text by what stands in front of them and behind them.
-/

/-! ### Cutting and joining -/

theorem splitOn_cons_self (sep : Char) (t : Text) : splitOn sep (sep :: t) = [] :: splitOn sep t :=
  if_pos rfl

/-- A character that is no separator belongs to the first piece. -/
theorem splitOn_cons_of_ne {sep c : Char} (h : c ≠ sep) (t : Text) :
    ∃ piece pieces, splitOn sep t = piece :: pieces ∧
      splitOn sep (c :: t) = (c :: piece) :: pieces := by
  obtain ⟨piece, pieces, hpieces⟩ := List.exists_cons_of_ne_nil (splitOn_ne_nil sep t)
  refine ⟨piece, pieces, hpieces, ?_⟩
  rw [splitOn, if_neg h, hpieces]

/-- The pieces of a text are those of the list of its characters. -/
theorem splitOn_eq (sep : Char) (t : Text) : splitOn sep t = List.splitOn sep t := by
  induction t with
  | nil => rfl
  | cons c t ih =>
    rw [List.splitOn_cons_eq_if_modifyHead, ← ih]
    by_cases h : c = sep
    · subst h
      rw [splitOn_cons_self]
      simp
    · obtain ⟨piece, pieces, hpieces, hcons⟩ := splitOn_cons_of_ne h t
      rw [hpieces, hcons]
      simp [h]

/-- A separator parts the pieces in front of it from those behind it. -/
theorem splitOn_append_cons (sep : Char) (a b : Text) :
    splitOn sep (a ++ sep :: b) = splitOn sep a ++ splitOn sep b := by
  simp only [splitOn_eq]
  exact List.splitOn_append_cons_self a b

/-- A text without separator is one piece. -/
theorem splitOn_of_not_mem {sep : Char} {t : Text} (h : sep ∉ t) : splitOn sep t = [t] := by
  rw [splitOn_eq]
  exact List.splitOn_eq_singleton h

/-- Joined pieces come apart again. -/
theorem splitOn_joinWith {sep : Char} {parts : List Text} (h : ∀ p ∈ parts, sep ∉ p)
    (hne : parts ≠ []) : splitOn sep (joinWith [sep] parts) = parts := by
  rw [splitOn_eq]
  exact List.splitOn_intercalate sep h hne

/-- Joined texts are the first one and, for each further one, a separator and that text. -/
theorem joinWith_cons (sep p : Text) (parts : List Text) :
    joinWith sep (p :: parts) = p ++ parts.flatMap (sep ++ ·) := by
  induction parts generalizing p with
  | nil => simp [joinWith]
  | cons q parts ih =>
    have hq := ih q
    rw [joinWith] at hq ⊢
    rw [List.intercalate_cons_cons, hq, List.flatMap_cons]
    simp

/-- No piece holds the separator. -/
theorem not_mem_of_mem_splitOn {sep : Char} {t p : Text} (h : p ∈ splitOn sep t) : sep ∉ p := by
  induction t generalizing p with
  | nil =>
    have hp : p = [] := by simpa [splitOn] using h
    simp [hp]
  | cons c t ih =>
    by_cases hc : c = sep
    · subst hc
      rw [splitOn_cons_self] at h
      rcases List.mem_cons.1 h with rfl | h
      · simp
      · exact ih h
    · obtain ⟨piece, pieces, hpieces, hcons⟩ := splitOn_cons_of_ne hc t
      rw [hcons] at h
      rw [hpieces] at ih
      rcases List.mem_cons.1 h with rfl | h
      · exact List.not_mem_cons_of_ne_of_not_mem (Ne.symm hc) (ih List.mem_cons_self)
      · exact ih (List.mem_cons_of_mem _ h)

/-- There is one piece more than separators. -/
theorem length_splitOn (sep : Char) (t : Text) :
    (splitOn sep t).length = t.count sep + 1 := by
  induction t with
  | nil => rfl
  | cons c t ih =>
    by_cases h : c = sep
    · subst h
      rw [splitOn_cons_self, List.length_cons, ih, List.count_cons_self]
    · obtain ⟨piece, pieces, hpieces, hcons⟩ := splitOn_cons_of_ne h t
      rw [hpieces] at ih
      rw [hcons, List.count_cons_of_ne h, ← ih]
      rfl

/-! ### The carriage return of a line end -/

/-- A text that does not end in a carriage return keeps its end. -/
theorem dropCarriageReturn_of_ne {t : Text} (h : t.getLast? ≠ some '\r') :
    dropCarriageReturn t = t :=
  if_neg h

theorem dropCarriageReturn_concat (t : Text) : dropCarriageReturn (t ++ ['\r']) = t := by
  simp [dropCarriageReturn]

/-- What is dropped belongs to the last part, if the first does not end in a carriage return. -/
theorem dropCarriageReturn_append {a : Text} (h : a.getLast? ≠ some '\r') (b : Text) :
    dropCarriageReturn (a ++ b) = a ++ dropCarriageReturn b := by
  rcases b.eq_nil_or_concat' with rfl | ⟨b, c, rfl⟩
  · simp [dropCarriageReturn, h]
  · by_cases hc : c = '\r'
    · simp [dropCarriageReturn, hc, ← List.append_assoc]
    · simp [dropCarriageReturn, hc, ← List.append_assoc]

theorem dropCarriageReturn_isPrefix (t : Text) : dropCarriageReturn t <+: t := by
  rw [dropCarriageReturn]
  split
  · exact List.dropLast_prefix t
  · exact List.prefix_rfl

/-! ### Lines -/

/-- A text behind which a new line starts: it is empty or ends in a line feed. -/
def Terminated (t : Text) : Prop :=
  t = [] ∨ t.getLast? = some '\n'

/-- A terminated text is empty or some text with a line feed behind it. -/
theorem Terminated.cases {t : Text} (h : Terminated t) : t = [] ∨ ∃ a, t = a ++ ['\n'] := by
  rcases h with h | h
  · exact .inl h
  · exact .inr (List.getLast?_eq_some_iff.1 h)

/-- A piece with others behind it is a line less its carriage return. -/
theorem linesOfPieces_cons {pieces : List Text} (h : pieces ≠ []) (piece : Text) :
    linesOfPieces (piece :: pieces) = dropCarriageReturn piece :: linesOfPieces pieces := by
  cases pieces with
  | nil => exact absurd rfl h
  | cons q qs => rfl

theorem linesOfPieces_append {behind : List Text} (h : behind ≠ []) (front : List Text) :
    linesOfPieces (front ++ behind) = front.map dropCarriageReturn ++ linesOfPieces behind := by
  induction front with
  | nil => rfl
  | cons p ps ih =>
    have hne : ps ++ behind ≠ [] := by simp [h]
    rw [List.cons_append, linesOfPieces_cons hne, ih, List.map_cons, List.cons_append]

/-- The lines up to a line feed are the pieces there, and the lines behind it do not depend on
    them. -/
theorem lines_append_cons (a b : Text) :
    lines (a ++ '\n' :: b) = (splitOn '\n' a).map dropCarriageReturn ++ lines b := by
  rw [lines, splitOn_append_cons, linesOfPieces_append (splitOn_ne_nil '\n' b), lines]

/-- Behind a terminated text the lines start afresh. -/
theorem lines_append {t : Text} (h : Terminated t) (u : Text) :
    lines (t ++ u) = lines t ++ lines u := by
  rcases h.cases with rfl | ⟨a, rfl⟩
  · simp
  · have hu := lines_append_cons a u
    have hnil := lines_append_cons a []
    rw [lines_nil, List.append_nil] at hnil
    rw [hnil, ← hu, List.append_assoc, List.singleton_append]

/-- One line and its line feed are one line of the text. -/
theorem lines_line_append {line : Text} (h : '\n' ∉ line) (u : Text) :
    lines (line ++ '\n' :: u) = dropCarriageReturn line :: lines u := by
  rw [lines_append_cons, splitOn_of_not_mem h]
  rfl

/-- A terminated text has one line per line feed. -/
theorem length_lines {t : Text} (h : Terminated t) : (lines t).length = t.count '\n' := by
  rcases h.cases with rfl | ⟨a, rfl⟩
  · rfl
  · rw [lines_append_cons, lines_nil, List.append_nil, List.length_map, length_splitOn]
    simp

/-- Each line starts a piece. -/
theorem exists_prefix_of_mem_linesOfPieces {pieces : List Text} {line : Text}
    (h : line ∈ linesOfPieces pieces) : ∃ p ∈ pieces, line <+: p := by
  induction pieces with
  | nil => simp [linesOfPieces] at h
  | cons p ps ih =>
    by_cases hps : ps = []
    · subst hps
      rw [linesOfPieces] at h
      split at h
      · simp at h
      · exact ⟨p, by simp, by simp_all⟩
    · rw [linesOfPieces_cons hps] at h
      rcases List.mem_cons.1 h with rfl | h
      · exact ⟨p, by simp, dropCarriageReturn_isPrefix p⟩
      · obtain ⟨q, hq, hpre⟩ := ih h
        exact ⟨q, List.mem_cons_of_mem _ hq, hpre⟩

/-- A line holds no line feed. -/
theorem newline_not_mem_of_mem_lines {t line : Text} (h : line ∈ lines t) : '\n' ∉ line := by
  obtain ⟨p, hp, hpre⟩ := exists_prefix_of_mem_linesOfPieces h
  exact fun hmem => not_mem_of_mem_splitOn hp (hpre.subset hmem)

/-! ### Where lines stand -/

/-- What stands behind a line: nothing, or a line end.  A carriage return in front of the line feed
    belongs to the line end. -/
def EndsBefore (line behind : Text) : Prop :=
  line ≠ [] ∧ behind = [] ∨
    line.getLast? ≠ some '\r' ∧ (∃ rest, behind = '\n' :: rest) ∨
    ∃ rest, behind = '\r' :: '\n' :: rest

/-- A text without line feed is one line, unless it is empty. -/
theorem lines_of_not_mem {t : Text} (h : '\n' ∉ t) (hne : t ≠ []) : lines t = [t] := by
  rw [lines, splitOn_of_not_mem h, linesOfPieces, if_neg (by simpa using hne)]

theorem Terminated.append_cons {t : Text} (h : Terminated t) (a : Text) :
    Terminated (a ++ '\n' :: t) := by
  rcases h.cases with rfl | ⟨b, rfl⟩
  · exact .inr List.getLast?_concat
  · have hassoc : a ++ '\n' :: (b ++ ['\n']) = (a ++ '\n' :: b) ++ ['\n'] := by simp
    rw [hassoc]
    exact .inr List.getLast?_concat

/-- The first line of a text stands in front of the first line feed. -/
theorem endsBefore_dropCarriageReturn (piece rest : Text) :
    ∃ behind, piece ++ '\n' :: rest = dropCarriageReturn piece ++ behind ∧
      EndsBefore (dropCarriageReturn piece) behind := by
  by_cases hcr : piece.getLast? = some '\r'
  · obtain ⟨line, rfl⟩ := List.getLast?_eq_some_iff.1 hcr
    rw [dropCarriageReturn_concat]
    exact ⟨'\r' :: '\n' :: rest, by simp, .inr (.inr ⟨rest, rfl⟩)⟩
  · rw [dropCarriageReturn_of_ne hcr]
    exact ⟨'\n' :: rest, rfl, .inr (.inl ⟨hcr, rest, rfl⟩)⟩

/-- A text that a line stands in begins a new line in front of it. -/
theorem exists_of_mem_lines {t line : Text} (h : line ∈ lines t) :
    ∃ before behind, t = before ++ line ++ behind ∧ Terminated before ∧ EndsBefore line behind := by
  -- Induction on the length: the text behind the first line feed is shorter.
  induction hn : t.length using Nat.strongRecOn generalizing t with
  | _ n ih =>
    by_cases hmem : '\n' ∈ t
    · obtain ⟨piece, rest, rfl, hpiece⟩ := List.eq_append_cons_of_mem hmem
      rw [lines_line_append hpiece] at h
      rcases List.mem_cons.1 h with rfl | h
      · obtain ⟨behind, heq, hends⟩ := endsBefore_dropCarriageReturn piece rest
        exact ⟨[], behind, heq, .inl rfl, hends⟩
      · have hlt : rest.length < n := by simp at hn; omega
        obtain ⟨before, behind, rfl, hbefore, hends⟩ := ih _ hlt h rfl
        exact ⟨piece ++ '\n' :: before, behind, by simp, hbefore.append_cons piece, hends⟩
    · have hne : t ≠ [] := by
        rintro rfl
        simp at h
      rw [lines_of_not_mem hmem hne] at h
      obtain rfl := List.mem_singleton.1 h
      exact ⟨[], [], by simp, .inl rfl, .inl ⟨hne, rfl⟩⟩

/-- The lines of a text are what stands in it without line feed between the start of a line and the
    end of one. -/
theorem mem_lines_iff {t line : Text} :
    line ∈ lines t ↔ ∃ before behind, t = before ++ line ++ behind ∧ Terminated before ∧
      '\n' ∉ line ∧ EndsBefore line behind := by
  constructor
  · intro h
    obtain ⟨before, behind, heq, hbefore, hends⟩ := exists_of_mem_lines h
    exact ⟨before, behind, heq, hbefore, newline_not_mem_of_mem_lines h, hends⟩
  · rintro ⟨before, behind, rfl, hbefore, hline, hends⟩
    rw [List.append_assoc, lines_append hbefore]
    refine List.mem_append_right _ ?_
    rcases hends with ⟨hne, rfl⟩ | ⟨hcr, rest, rfl⟩ | ⟨rest, rfl⟩
    · rw [List.append_nil, lines_of_not_mem hline hne]
      exact List.mem_singleton_self line
    · rw [lines_line_append hline, dropCarriageReturn_of_ne hcr]
      exact List.mem_cons_self
    · -- The line end takes the carriage return behind the line with it, and only that one.
      have hcr : '\n' ∉ line ++ ['\r'] := by simp [hline]
      have hassoc : line ++ '\r' :: '\n' :: rest = (line ++ ['\r']) ++ '\n' :: rest := by simp
      rw [hassoc, lines_line_append hcr, dropCarriageReturn_concat]
      exact List.mem_cons_self

end CInterface.Text
