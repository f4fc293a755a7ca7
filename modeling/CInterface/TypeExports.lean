import CInterface.Text.Basic

namespace CInterface.TypeExports

/-!
# Exported type declarations

TypeScript type declarations are made public by writing `export` in front of each word `type`
that does not have it yet.  The text is cut into runs, which are longest stretches of word
characters or of other characters; a run `type` has its `export` when the run before it is
whitespace and the one before that is `export`.
-/

/-- The runs of a text: longest stretches of word characters and of other characters. -/
def runs : Text → List Text
  | [] => []
  | c :: t =>
    match runs t with
    | [] => [[c]]
    | run :: rest =>
      if run.head?.any (fun d => Text.isWord d == Text.isWord c) then (c :: run) :: rest
      else [c] :: run :: rest

/-- Do these two runs make the word behind them exported? -/
def isExport (word gap : Text) : Bool :=
  word = "export".toList && !gap.isEmpty && gap.all Text.isWhitespace

/-- The runs with `export` written where it is missing; `word` and `gap` are the two runs in
    front of them. -/
def exportFrom : (word gap : Text) → List Text → List Text
  | _, _, [] => []
  | word, gap, run :: rest =>
    (if run = "type".toList && !isExport word gap then "export ".toList ++ run else run)
      :: exportFrom gap run rest

/-- The text with each word `type` exported. -/
def exportTypes (t : Text) : Text :=
  (exportFrom [] [] (runs t)).flatten

end CInterface.TypeExports
