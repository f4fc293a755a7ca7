import CInterface.CommandLine.Run

namespace CInterface.Main

/-!
# The program

The outer layer of the command line.  It takes a snapshot of the places that the run may touch,
runs on the snapshot, and carries the changes out.
-/

open CommandLine

/-! ### The places that a run may touch -/

/-- The locations on the way of a path, the last one included. -/
def onTheWay : Location → List Step → List Location
  | l, [] => [l]
  | l, .here :: steps => onTheWay l steps
  | l, .up :: steps => l :: onTheWay l.tail steps
  | l, .down name :: steps => l :: onTheWay (name :: l) steps

/-- The paths that an invocation may touch. -/
def paths (inv : Invocation) (cwd : Text) : List Text :=
  [inv.configPath.getD (Settings.projectPath cwd), inv.interfacePath, inv.typesPath,
    inv.destination]

/-- The locations above a location and itself, the outermost first. -/
def downTo : Location → List Location
  | [] => [[]]
  | name :: l => downTo l ++ [name :: l]

/-- The locations that an invocation may touch, each once and after those above it. -/
def locations (inv : Invocation) (w : Workspace) : List Location :=
  let touched := (paths inv w.cwdText).flatMap fun t =>
    let p := Path.ofText t
    onTheWay (w.start p) p.steps
  (downTo w.cwd ++ touched).eraseDups

/-- The text of a location's path. -/
def locationText (l : Location) : Text :=
  '/' :: Text.joinWith "/".toList l.reverse

/-! ### Snapshots -/

/-- What stands at a location. -/
def observe (l : Location) : IO (Option Entry) := do
  let path := (← IO.currentDir) / Text.string (locationText l)
  if ← path.isDir then return some .directory
  if ← path.pathExists then return some (.file (← IO.FS.readBinFile path))
  return none

/-- The workspace with the entries at the given locations. -/
def snapshot (cwd : Location) (ls : List Location) : IO Workspace := do
  let mut tree : FileTree := {}
  for l in ls do
    unless l.isEmpty do
      if let some e ← observe l then tree := tree.put l e
  return { tree := tree, cwd := cwd }

/-- Does the entry at a location differ between two trees? -/
def differs (before after : FileTree) (l : Location) : Bool :=
  match before.lookup l, after.lookup l with
  | some .directory, some .directory => false
  | some (.file a), some (.file b) => a != b
  | none, none => false
  | _, _ => true

/-- Put a file in its place as a whole. -/
def store (l : Location) (content : ByteArray) : IO Unit := do
  let directory := (← IO.currentDir) / Text.string (locationText l.tail)
  let draft := directory / (".tmp" ++ toString (← IO.rand 0 999999999))
  IO.FS.writeBinFile draft content
  IO.FS.rename draft ((← IO.currentDir) / Text.string (locationText l))

/-- Carry out what has changed between two trees at the given locations. -/
def apply (before after : FileTree) (ls : List Location) : IO Unit := do
  for l in ls do
    if differs before after l then
      match after.lookup l with
      | some .directory =>
        IO.FS.createDirAll ((← IO.currentDir) / Text.string (locationText l))
      | some (.file content) => store l content
      | none => pure ()

/-! ### Running -/

/-- The text of a variable of the environment. -/
def environmentText (name : String) : IO (Option Text) := do
  return (← IO.getEnv name).map String.toList

/-- Run the program with the given arguments. -/
def runProgram (args : List Text) : IO UInt32 := do
  let env : Environment :=
    { interfacePath := ← environmentText "HEADER_FILE_PATH"
      typesPath := ← environmentText "FFI_TYPES_PATH" }
  let cwdPath := Path.ofText (← IO.currentDir).toString.toList
  let cwd : Location := (cwdPath.steps.map Step.name).reverse
  let touched := match parse env args with
    | .ok inv => locations inv { cwd := cwd }
    | .error _ => []
  let w ← snapshot cwd touched
  let exit := CommandLine.run env args w
  apply w.tree exit.workspace.tree touched
  (← IO.getStdout).putStr exit.stdout.string
  (← IO.getStderr).putStr exit.stderr.string
  return exit.code.toUInt32

end CInterface.Main

/-- Generate an artifact from a C interface as the arguments say. -/
def main (args : List String) : IO UInt32 := do
  try
    CInterface.Main.runProgram (args.map String.toList)
  catch e =>
    (← IO.getStderr).putStr ("error: " ++ toString e ++ "\n")
    return 1
