import CInterface.Workspace.FileTree
import CInterface.Workspace.Path

namespace CInterface

/-!
# Workspaces — reading and writing

A workspace is a file tree with a working directory.  Paths are followed step by step; every
step starts at a directory that exists.

* `Workspace.read`, `Workspace.readText` — the content of a file, as bytes or as text.
* `Workspace.makeDirectories` — make the directories that are missing on the way of a path.
* `TemporaryNames` — how a file that is not yet in its place is named.
* `Workspace.writeFile` — replace a file as a whole, making the directories above it.  The content
  goes to a temporary file beside the place, which then is moved there or, if that fails, removed.
  When writing fails, directories may have been made but no file is touched.
-/

/-- Why a file operation fails. -/
inductive FileError
  | notFound
  | busy
  | alreadyExists
  | notDirectory
  | isDirectory
  | invalidArgument
  | nameTooLong
  /-- The path has a NUL character. -/
  | nulInPath
  /-- The content is not UTF-8. -/
  | notText
  deriving Repr, DecidableEq

/-- The cause in words. -/
def FileError.message : FileError → Text
  | notFound => "No such file or directory (os error 2)".toList
  | busy => "Device or resource busy (os error 16)".toList
  | alreadyExists => "File exists (os error 17)".toList
  | notDirectory => "Not a directory (os error 20)".toList
  | isDirectory => "Is a directory (os error 21)".toList
  | invalidArgument => "Invalid argument (os error 22)".toList
  | nameTooLong => "File name too long (os error 36)".toList
  | nulInPath => "file name contained an unexpected NUL byte".toList
  | notText => "stream did not contain valid UTF-8".toList

/-! ### Temporary files -/

/-- How temporary files are named: by a name that nothing in their directory has.  A temporary file
    may also fail to be made, for instance because its own path would be too long. -/
structure TemporaryNames where
  /-- The name of a new file in the directory at a location, whose path is written with a text. -/
  choose : FileTree → Location → (directory : Text) → Except FileError Text
  /-- Nothing stands under the name. -/
  lookup_choose : ∀ {t l directory name}, choose t l directory = .ok name →
    t.lookup (name :: l) = none

namespace TemporaryNames

/-- The first free one of as many numbered names as there are tries, from a number on. -/
def firstFree (t : FileTree) (l : Location) : (tries number : Nat) → Except FileError Text
  | 0, _ => .error .alreadyExists
  | tries + 1, number =>
    let name := ".tmp".toList ++ Text.paddedDecimal 6 number
    if (t.lookup (name :: l)).isNone then .ok name else firstFree t l tries (number + 1)

theorem lookup_firstFree {t : FileTree} {l : Location} {tries number : Nat} {name : Text}
    (h : firstFree t l tries number = .ok name) : t.lookup (name :: l) = none := by
  induction tries generalizing number with
  | zero => exact absurd h (by simp [firstFree])
  | succ tries ih =>
    rw [firstFree] at h
    split at h
    · next hfree =>
      rw [← Except.ok.inj h]
      exact Option.isNone_iff_eq_none.1 hfree
    · exact ih h

/-- Names with a number of at least six digits.  There are more tries than names in the
    directory. -/
def numbered : TemporaryNames where
  choose t l _ := firstFree t l ((t.folderAt l).length + 1) 0
  lookup_choose := lookup_firstFree

end TemporaryNames

/-- A file tree with a working directory. -/
structure Workspace where
  tree : FileTree := {}
  /-- The working directory. -/
  cwd : Location := []
  /-- How temporary files are named. -/
  temporaryNames : TemporaryNames := .numbered

namespace Workspace

/-! ### Following paths -/

/-- The greatest number of bytes of a name. -/
def maxNameLength : Nat := 255

/-- The greatest number of bytes of a path. -/
def maxPathLength : Nat := 4095

/-- Does a path's text have a NUL character? -/
def hasNul (t : Text) : Bool :=
  t.any (· == '\x00')

/-- Is a path's text of a length that can be followed? -/
def checkLength (t : Text) : Except FileError Unit :=
  if t.isEmpty then .error .notFound
  else if maxPathLength < Text.utf8Length t then .error .nameTooLong
  else .ok ()

/-- Can a path with this text be followed at all? -/
def checkText (t : Text) : Except FileError Unit :=
  if hasNul t then .error .nulInPath else checkLength t

/-- The location that the steps lead to, which must exist. -/
def walk (tree : FileTree) : Location → List Step → Except FileError Location
  | l, [] => .ok l
  | l, step :: steps =>
    match tree.lookup l with
    | none => .error .notFound
    | some (.file _) => .error .notDirectory
    | some .directory =>
      match step with
      | .here => walk tree l steps
      | .up => walk tree l.tail steps
      | .down name =>
        if maxNameLength < Text.utf8Length name then .error .nameTooLong
        else if (tree.lookup (name :: l)).isNone then .error .notFound
        else walk tree (name :: l) steps

/-- Where a path begins. -/
def start (w : Workspace) (p : Path) : Location :=
  if p.absolute then [] else w.cwd

/-- The location that a path leads to, which must exist.  A path that ends in `/` leads to no
    file. -/
def locate (w : Workspace) (t : Text) : Except FileError Location := do
  checkText t
  let p := Path.ofText t
  let l ← walk w.tree (w.start p) p.steps
  match w.tree.lookup l with
  | none => .error .notFound
  | some (.file _) => if p.slash then .error .notDirectory else .ok l
  | some .directory => .ok l

/-- Does a path lead to something? -/
def pathExists (w : Workspace) (t : Text) : Bool :=
  match w.locate t with
  | .ok _ => true
  | .error _ => false

/-! ### Reading -/

/-- The content of a file. -/
def read (w : Workspace) (t : Text) : Except FileError ByteArray := do
  let l ← w.locate t
  match w.tree.lookup l with
  | some (.file content) => .ok content
  | some .directory => .error .isDirectory
  | none => .error .notFound

/-- The text that bytes are in UTF-8. -/
def decodeText (content : ByteArray) : Except FileError Text :=
  match String.fromUTF8? content with
  | some s => .ok s.toList
  | none => .error .notText

/-- A text as bytes in UTF-8. -/
def encodeText (t : Text) : ByteArray :=
  t.string.toUTF8

/-- The content of a file as text. -/
def readText (w : Workspace) (t : Text) : Except FileError Text := do
  decodeText (← w.read t)

/-! ### Writing -/

/-- What a path names when its last step need not exist. -/
inductive Target
  /-- A directory without a name of its own: the root, `.` or `..`. -/
  | fixed
  /-- A name in a directory that exists. -/
  | named (l : Location)

/-- What the steps name. -/
def target (tree : FileTree) (l : Location) (steps : List Step) : Except FileError Target :=
  match steps.getLast? with
  | none => .ok .fixed
  | some last => do
    let parent ← walk tree l steps.dropLast
    match tree.lookup parent with
    | none => .error .notFound
    | some (.file _) => .error .notDirectory
    | some .directory =>
      match last with
      | .down name =>
        if maxNameLength < Text.utf8Length name then .error .nameTooLong
        else .ok (.named (name :: parent))
      | _ => .ok .fixed

/-- Why a way that meets a file cannot be made.  The file stands where a directory has to be made
    if it is the last step or some directory above has been made; else the path is followed no
    further than the file. -/
def blockedBy (made last : Bool) : FileError :=
  if made || last then .alreadyExists else .notDirectory

/-- Make the missing directories on the way that the steps lead from a directory.  The flag tells
    whether one has been made before. -/
def makeDirectories (made : Bool) (tree : FileTree) :
    Location → List Step → FileTree × Except FileError Unit
  | _, [] => (tree, .ok ())
  | l, .here :: steps => makeDirectories made tree l steps
  | l, .up :: steps => makeDirectories made tree l.tail steps
  | l, .down name :: steps =>
    if maxNameLength < Text.utf8Length name then (tree, .error .nameTooLong)
    else match tree.lookup (name :: l) with
      | some .directory => makeDirectories made tree (name :: l) steps
      | some (.file _) => (tree, .error (blockedBy made steps.isEmpty))
      | none => makeDirectories true (tree.put (name :: l) .directory) (name :: l) steps

/-- Can a file be put in the place that a path with this text names? -/
def checkPlace (t : Text) : Except FileError Unit :=
  if hasNul t then .error .invalidArgument else checkLength t

/-- Can the directory that a path lies in be made?  The place where the path begins needs no
    making. -/
def checkParent (t : Text) : Except FileError Unit :=
  if (Path.parentText t).isEmpty then .ok () else checkText (Path.parentText t)

/-- Make the directory that a path lies in, and those above it.  The path begins at a directory
    that exists. -/
def makeParent (w : Workspace) (t : Text) : Workspace × Except FileError Unit :=
  let parent := (Path.ofText t).parent
  match checkParent t with
  | .error e => (w, .error e)
  | .ok () =>
    if w.tree.isDirectory (w.start parent) then
      let made := makeDirectories false w.tree (w.start parent) parent.steps
      ({ w with tree := made.1 }, made.2)
    else (w, .error .notFound)

/-- Make a temporary file in the directory that a path lies in.  Yields the tree with the file, and
    where in it the file stands. -/
def stage (w : Workspace) (t : Text) (content : ByteArray) :
    Except FileError (FileTree × Location) := do
  let parent := (Path.ofText t).parent
  let l ← walk w.tree (w.start parent) parent.steps
  match w.tree.lookup l with
  | none => .error .notFound
  | some (.file _) => .error .notDirectory
  | some .directory => do
    let name ← w.temporaryNames.choose w.tree l (Path.directoryText t)
    .ok (w.tree.put (name :: l) (.file content), name :: l)

/-- Move a file to the place that a path names.  It may replace a file but no directory. -/
def moveFile (w : Workspace) (source : Location) (t : Text) : Except FileError FileTree := do
  checkPlace t
  let p := Path.ofText t
  match ← target w.tree (w.start p) p.steps with
  | .fixed => .error .busy
  | .named child =>
    if p.slash then .error .notDirectory
    else if w.tree.isDirectory child then .error .isDirectory
    else match w.tree.lookup source with
      | some (.file content) => .ok ((w.tree.remove source).put child (.file content))
      | _ => .error .notFound

/-- Write a file as a whole, making the directories above it. -/
def writeFile (w : Workspace) (t : Text) (content : ByteArray) :
    Workspace × Except FileError Unit :=
  match w.makeParent t with
  | (w, .error e) => (w, .error e)
  | (w, .ok ()) =>
    match w.stage t content with
    | .error e => (w, .error e)
    | .ok (staged, temporary) =>
      match { w with tree := staged }.moveFile temporary t with
      | .error e => ({ w with tree := staged.remove temporary }, .error e)
      | .ok tree => ({ w with tree := tree }, .ok ())

/-- Make a directory and those above it. -/
def createDirectory (w : Workspace) (t : Text) : Workspace × Except FileError Unit :=
  let p := Path.ofText t
  let (tree, result) :=
    makeDirectories false w.tree (w.start p) (p.steps.filter (· ≠ .here))
  ({ w with tree := tree }, result)

/-- Remove a file, or a directory with all below it. -/
def removePath (w : Workspace) (t : Text) : Workspace × Except FileError Unit :=
  match w.locate t with
  | .ok l => ({ w with tree := w.tree.remove l }, .ok ())
  | .error e => (w, .error e)

/-- The text of the working directory's path. -/
def cwdText (w : Workspace) : Text :=
  '/' :: Text.joinWith "/".toList w.cwd.reverse

/-- The files below the working directory, and its empty directories. -/
def files (w : Workspace) : List (Text × Option ByteArray) :=
  w.tree.filesBelow w.cwd

end Workspace

end CInterface
