import CInterface.CommandLine.Help

namespace CInterface.CommandLine

/-!
# The command line — running

* `Invocation.run` — load the settings, generate the artifact, report.
* `run` — the same from the arguments on, as exit code and printed texts.
-/

/-! ### What an invocation does -/

namespace Invocation

/-- The request that an invocation makes, given the settings in effect.  The flag that exports
    types adds to what the settings say. -/
def request (inv : Invocation) (s : Settings) : Request where
  interfacePath := inv.interfacePath
  typesPath := inv.typesPath
  destination := Destination.ofText inv.destination
  asyncify := inv.asyncify
  settings := { s with ffi := { s.ffi with exportTypes := s.ffi.exportTypes || inv.exportTypes } }

/-- The summary of a generation. -/
def summaryLog (r : Report) : LogLine where
  level := .debug
  message := Text.decimal r.declarations ++ " declarations, ".toList ++ Text.decimal r.skipped
    ++ " skipped lines, ".toList ++ Text.decimal r.bytes ++ " bytes written".toList

/-- Load the settings, then generate the artifact. -/
def run (inv : Invocation) (w : Workspace) : Outcome Report :=
  let (logs, settings) := Settings.discover w inv.configPath w.cwdText
  match settings with
  | .error e => { logs := logs, workspace := w, result := .error e }
  | .ok s =>
    let generated := generate inv.artifact (inv.request s) w
    let summary := match generated.result with
      | .ok report => [summaryLog report]
      | .error _ => []
    { generated with logs := logs ++ generated.logs ++ summary }

/-- Is a log line printed? -/
def shows (inv : Invocation) (l : LogLine) : Bool :=
  inv.verbose || l.level ≠ .debug

end Invocation

/-! ### What is printed -/

/-- What a failure says, from the outermost context to the cause. -/
def failureChain (f : Failure) : List Text :=
  let context := match f with
    | .readSettings _ _ | .decodeSettings _ _ => ["failed to load configuration".toList]
    | _ => []
  context ++ [f.message, f.cause]

/-- The line on a failure. -/
def failureLine (f : Failure) : Text :=
  "error: ".toList ++ Text.joinWith ": ".toList (failureChain f) ++ ['\n']

/-- The log as it is printed. -/
def logText (inv : Invocation) (logs : List LogLine) : Text :=
  Log.text (logs.filter inv.shows)

/-- What a run of the program leaves behind. -/
structure Exit where
  code : Nat
  stdout : Text := []
  /-- The printed log. -/
  logs : Text := []
  /-- The failure that ended the run. -/
  failure : Option Failure := none
  /-- What else is printed to standard error. -/
  notice : Text := []
  workspace : Workspace

/-- All that is printed to standard error. -/
def Exit.stderr (e : Exit) : Text :=
  e.logs ++ (match e.failure with
    | some f => failureLine f
    | none => []) ++ e.notice

/-- Run an invocation as a whole program. -/
def runInvocation (inv : Invocation) (w : Workspace) : Exit :=
  let outcome := inv.run w
  let logs := logText inv outcome.logs
  match outcome.result with
  | .ok _ => { code := 0, stdout := outcome.stdout, logs := logs, workspace := outcome.workspace }
  | .error f =>
    { code := 1, stdout := outcome.stdout, logs := logs, failure := some f
      workspace := outcome.workspace }

/-- Run the program. -/
def run (env : Environment) (args : List Text) (w : Workspace) : Exit :=
  match parse env args with
  | .ok inv => runInvocation inv w
  | .error .usage => { code := 2, notice := usageText, workspace := w }
  | .error (.help topic) => { code := 0, stdout := helpText topic, workspace := w }
  | .error .version => { code := 0, stdout := versionText, workspace := w }

end CInterface.CommandLine
