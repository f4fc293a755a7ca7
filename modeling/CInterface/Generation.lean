import CInterface.Artifact
import CInterface.Interface.Reader
import CInterface.Settings.Decode
import CInterface.Workspace.Access

namespace CInterface

/-!
# Generation

Reading the inputs from a workspace, rendering an artifact and writing it.  All inputs are read
before anything is written.

* `Settings.load`, `Settings.discover` — settings from a file.
* `generate` — one artifact from an interface file.
-/

/-! ### Failures -/

/-- Why a generation fails: at which file, and for what cause. -/
inductive Failure
  | readInterface (path : Text) (cause : FileError)
  | readTypes (path : Text) (cause : FileError)
  | write (path : Text) (cause : FileError)
  | readSettings (path : Text) (cause : FileError)
  | decodeSettings (path : Text) (cause : DecodeError)

namespace Failure

/-- What went wrong, and at which file. -/
def message : Failure → Text
  | readInterface path _ => "failed to read interface source: ".toList ++ path
  | readTypes path _ => "failed to read FFI type declarations: ".toList ++ path
  | write path _ => "failed to write artifact: ".toList ++ path
  | readSettings path _ => "failed to read config file: ".toList ++ path
  | decodeSettings path _ => "failed to parse config file: ".toList ++ path

/-- Why it went wrong. -/
def cause : Failure → Text
  | readInterface _ cause => cause.message
  | readTypes _ cause => cause.message
  | write _ cause => cause.message
  | readSettings _ cause => cause.message
  | decodeSettings _ cause => cause.message

end Failure

/-! ### Settings from a file -/

namespace Settings

/-- The name of the settings file in a directory. -/
def fileName : Text := "ifacegen.toml".toList

/-- The path of the settings file in a directory. -/
def projectPath (directory : Text) : Text :=
  Path.join directory fileName

/-- The settings in a file. -/
def load (w : Workspace) (path : Text) : Except Failure Settings :=
  match w.readText path with
  | .error e => .error (.readSettings path e)
  | .ok text =>
    match ofText text with
    | .error e => .error (.decodeSettings path e)
    | .ok settings => .ok settings

/-- The file that settings are loaded from: the one that is asked for, else the one in the
    directory if it is there. -/
def chosenPath? (w : Workspace) (explicit : Option Text) (directory : Text) : Option Text :=
  match explicit with
  | some path => some path
  | none => if w.pathExists (projectPath directory) then some (projectPath directory) else none

/-- The settings in effect, and what loading them reports.  Without a file to load they are the
    defaults. -/
def discover (w : Workspace) (explicit : Option Text) (directory : Text) :
    List LogLine × Except Failure Settings :=
  match chosenPath? w explicit directory with
  | none => ([], .ok {})
  | some path =>
    ([{ level := .debug, message := "loading config from ".toList ++ path }], load w path)

end Settings

/-! ### Destinations -/

/-- Where an artifact goes. -/
inductive Destination
  | stdout
  | file (path : Text)
  deriving Repr, DecidableEq

namespace Destination

/-- The destination that a text names: `-` is standard output. -/
def ofText (t : Text) : Destination :=
  if t = "-".toList then stdout else file t

/-- The destination in a report. -/
def label : Destination → Text
  | stdout => "<stdout>".toList
  | file path => path

end Destination

/-- What an operation leaves behind. -/
structure Outcome (α : Type) where
  /-- What it reports. -/
  logs : List LogLine := []
  /-- What it prints. -/
  stdout : Text := []
  /-- The workspace afterwards. -/
  workspace : Workspace
  /-- What it returns. -/
  result : Except Failure α

/-- Write an artifact and a line feed behind it. -/
def writeArtifact (w : Workspace) (d : Destination) (content : Text) : Outcome Unit :=
  match d with
  | .stdout => { stdout := content ++ ['\n'], workspace := w, result := .ok () }
  | .file path =>
    match w.writeFile path (Workspace.encodeText (content ++ ['\n'])) with
    | (w, .ok ()) => { workspace := w, result := .ok () }
    | (w, .error e) => { workspace := w, result := .error (.write path e) }

/-! ### Generating an artifact -/

/-- What to generate an artifact from, and where to. -/
structure Request where
  /-- The C interface file. -/
  interfacePath : Text := "./c/interface.c".toList
  /-- The file with the type declarations. -/
  typesPath : Text := "./ts/ffi-types.ts".toList
  destination : Destination
  /-- Is the artifact for an asynchronous build? -/
  asyncify : Bool := false
  settings : Settings := {}

/-- How a generation went. -/
structure Report where
  /-- The number of declarations. -/
  declarations : Nat
  /-- The number of near misses. -/
  skipped : Nat
  /-- The number of bytes of the artifact, without the line feed behind it. -/
  bytes : Nat
  deriving Repr, DecidableEq

namespace Request

/-- How the interface file is read. -/
def readerOptions (r : Request) : ReaderOptions :=
  { symbolPrefix := r.settings.interface.symbolPrefix }

/-- The interface in the interface file. -/
def readInterface (r : Request) (w : Workspace) : Except Failure Interface :=
  match w.readText r.interfacePath with
  | .error e => .error (.readInterface r.interfacePath e)
  | .ok text => .ok (Interface.read r.readerOptions text)

/-- The type declarations for an artifact; only the bindings have any. -/
def readTypes (r : Request) (a : Artifact) (w : Workspace) : Except Failure Text :=
  match a with
  | .ffi =>
    match w.readText r.typesPath with
    | .error e => .error (.readTypes r.typesPath e)
    | .ok text => .ok text
  | .symbols | .header => .ok []

/-- The text of an artifact. -/
def render (r : Request) (a : Artifact) (i : Interface) (types : Text) : Text :=
  a.render i r.settings r.asyncify types

/-- The report on a finished artifact. -/
def generatedLog (r : Request) (a : Artifact) (i : Interface) : LogLine where
  level := .info
  message := "generated ".toList ++ a.label ++ " for ".toList ++ Text.decimal i.declarations.length
    ++ " declarations -> ".toList ++ r.destination.label

end Request

/-- Generate one artifact. -/
def generate (a : Artifact) (r : Request) (w : Workspace) : Outcome Report :=
  match r.readInterface w with
  | .error e => { workspace := w, result := .error e }
  | .ok i =>
    match r.readTypes a w with
    | .error e => { logs := i.readLog, workspace := w, result := .error e }
    | .ok types =>
      let content := r.render a i types
      let written := writeArtifact w r.destination content
      match written.result with
      | .error e =>
        { logs := i.readLog
          stdout := written.stdout
          workspace := written.workspace
          result := .error e }
      | .ok () =>
        { logs := i.readLog ++ [r.generatedLog a i]
          stdout := written.stdout
          workspace := written.workspace
          result := .ok
            { declarations := i.declarations.length
              skipped := i.skipped.length
              bytes := Text.utf8Length content } }

end CInterface
