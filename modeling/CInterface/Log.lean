import CInterface.Text.Quoted

namespace CInterface

/-!
# Log lines

A log line is a level and a message.  `LogLine.render` writes the level right-aligned in five
columns, a space, and the message without the controls that steer a terminal.  `Log.text` is
the printed log; a message with line breaks takes several of its lines.
-/

/-- How much a log line matters. -/
inductive LogLevel
  | debug
  | info
  | warn
  deriving Repr, DecidableEq

/-- The level's name, right-aligned in five columns. -/
def LogLevel.label : LogLevel → Text
  | debug => "DEBUG".toList
  | info => " INFO".toList
  | warn => " WARN".toList

/-- A line of the log. -/
structure LogLine where
  level : LogLevel
  message : Text
  deriving Repr, DecidableEq

/-- The line as it is printed. -/
def LogLine.render (l : LogLine) : Text :=
  l.level.label ++ ' ' :: Text.logSafe l.message

/-- A log as it is printed. -/
def Log.text (logs : List LogLine) : Text :=
  logs.flatMap fun l => l.render ++ ['\n']

/-- The lines of a printed log, those without a character left out. -/
def Log.lines (logs : List LogLine) : List Text :=
  (Text.splitOn '\n' (Log.text logs)).filter fun line => !line.isEmpty

end CInterface
