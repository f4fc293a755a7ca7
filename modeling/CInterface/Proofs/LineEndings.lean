import CInterface.Artifact
import CInterface.Interface.Reader
import CInterface.Proofs.Lines

namespace CInterface

/-!
# Interfaces — spellings of the line end

A line feed ends a line, with or without a carriage return in front of it.  A text without carriage
returns therefore reads the same in either spelling of its line ends, and so does everything that is
made from it.

* `Text.crlf` — the text with a carriage return in front of every line feed.
* `Text.lines_crlf` — the lines do not show which spelling was used.
* `Interface.read_crlf` — neither do the interface and the artifacts.
-/

namespace Text

/-- The text with a carriage return in front of every line feed. -/
def crlf (t : Text) : Text :=
  t.flatMap fun c => if c = '\n' then ['\r', '\n'] else [c]

/-- Without line feeds there is nothing to spell. -/
theorem crlf_of_not_mem {t : Text} (h : '\n' ∉ t) : crlf t = t := by
  induction t with
  | nil => rfl
  | cons c t ih =>
    obtain ⟨hc, ht⟩ := List.ne_and_not_mem_of_not_mem_cons h
    have hrest := ih ht
    unfold crlf at hrest ⊢
    rw [List.flatMap_cons, if_neg (Ne.symm hc), hrest]
    rfl

/-- The carriage return stands between a line and its line feed. -/
theorem crlf_line_append {line : Text} (h : '\n' ∉ line) (rest : Text) :
    crlf (line ++ '\n' :: rest) = (line ++ ['\r']) ++ '\n' :: crlf rest := by
  have hline := crlf_of_not_mem h
  unfold crlf at hline ⊢
  rw [List.flatMap_append, hline, List.flatMap_cons, if_pos rfl]
  simp

/-- **The spelling of the line ends does not show in the lines.** -/
theorem lines_crlf {t : Text} (h : '\r' ∉ t) : lines (crlf t) = lines t := by
  -- Induction on the length: the text behind the first line feed is shorter.
  induction hn : t.length using Nat.strongRecOn generalizing t with
  | _ n ih =>
    by_cases hmem : '\n' ∈ t
    · obtain ⟨line, rest, rfl, hline⟩ := List.eq_append_cons_of_mem hmem
      have hreturn : '\r' ∉ line := fun hr => h (List.mem_append_left _ hr)
      have hbehind : '\r' ∉ rest := fun hr => h (by simp [hr])
      have hrest : lines (crlf rest) = lines rest := ih _ (by simp at hn; omega) hbehind rfl
      have hkeep : dropCarriageReturn line = line :=
        dropCarriageReturn_of_ne fun hlast => hreturn (List.mem_of_getLast? hlast)
      have hspelled : '\n' ∉ line ++ ['\r'] := by simp [hline]
      -- A line end takes one carriage return with it: the one that was put there.
      rw [crlf_line_append hline, lines_line_append hspelled, dropCarriageReturn_concat,
        lines_line_append hline, hkeep, hrest]
    · rw [crlf_of_not_mem hmem]

end Text

namespace Interface

/-- **Line ends do not matter.**  A text without carriage returns gives the same interface under
    every reader option if each of its line feeds is spelled with a carriage return, and hence the
    same artifacts under all settings. -/
theorem read_crlf (o : ReaderOptions) (content : Text) (h : '\r' ∉ content) :
    read o (Text.crlf content) = read o content ∧
      ∀ (a : Artifact) (s : Settings) (asyncify : Bool) (types : Text),
        a.render (read o (Text.crlf content)) s asyncify types
          = a.render (read o content) s asyncify types := by
  have hread : read o (Text.crlf content) = read o content := by
    rw [read, Text.lines_crlf h, read]
  refine ⟨hread, ?_⟩
  intro a s asyncify types
  rw [hread]

/-- An include line, an empty line, a near miss on the fourth line and an unterminated last one: the
    near miss keeps its number and its text, and the definition is found. -/
theorem read_crlf_mixed :
    let content := "#include <a.h>\n\nint QTS_Add(int a) \x7b\nint QTS_Sub(int a);\nvoid".toList
    '\r' ∉ content ∧
      Text.crlf content
        = "#include <a.h>\r\n\r\nint QTS_Add(int a) \x7b\r\nint QTS_Sub(int a);\r\nvoid".toList ∧
      read {} (Text.crlf content) =
        { includes := ["#include <a.h>".toList]
          declarations := [⟨"QTS_Add".toList, "int ".toList, "int a".toList⟩]
          skipped := [⟨4, "int QTS_Sub(int a);".toList, .forwardDeclaration⟩] } := by
  intro content
  have hreturn : '\r' ∉ content := by decide
  refine ⟨hreturn, by decide, ?_⟩
  rw [(read_crlf {} content hreturn).1]
  decide

end Interface

end CInterface
