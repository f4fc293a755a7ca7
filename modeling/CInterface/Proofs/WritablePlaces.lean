import CInterface.Proofs.DirectoryMaking
import CInterface.Proofs.TemporaryNames

namespace CInterface

/-!
# Workspaces — places that can be written

Which paths a file can be written to, and what the tree is afterwards, both told by what stands at
the locations on the way before anything is made.

* `Workspace.Room` — there is room for a file at the end of a path.
* `Workspace.Room.findsName` — then a temporary file can be named if it could be in another
  workspace, and the naming is steady.
* `Workspace.Room.stage`, `Workspace.Room.moveFile` — with directories all the way, the file is
  staged beside its place and moved there.
* `Workspace.Written` — the steps of a write that succeeds.
* `Workspace.writeFile_eq_ok_iff` — writing succeeds exactly if there is room for the file, and for
  a temporary file beside it.
* `Workspace.withFile_writeFile` — the tree after writing, at every location.
-/

namespace Workspace

open FileTree

/-! ### Room for a file -/

/-- There is room for a file at the end of a path: the path ends in a name, no file stands on the
    way, and the place is neither a directory nor on the way itself. -/
structure Room (w : Workspace) (t : Text) : Prop where
  legal : Legal t
  fits : ∀ step ∈ (Path.ofText t).steps, step.Fits
  slash : (Path.ofText t).slash = false
  named : ∃ name, (Path.ofText t).steps.getLast? = some (.down name)
  start_directory : w.tree.lookup (w.start (Path.ofText t)) = some .directory
  clear : Clear w.tree (w.way t)
  goal_not_mem : w.goal t ∉ w.way t
  goal_no_directory : w.tree.lookup (w.goal t) ≠ some .directory

section Steps

variable {w : Workspace} {t : Text} {front : List Step} {name : Text}
  (hsteps : (Path.ofText t).steps = front ++ [.down name])
include hsteps

/-- A path that ends in a name goes to the directory that it lies in, and on to the name. -/
theorem goal_of_steps : w.goal t = name :: arrive (w.start (Path.ofText t)) front := by
  rw [goal, hsteps, arrive_concat]
  rfl

theorem way_of_steps :
    w.way t = origins (w.start (Path.ofText t)) front
      ++ [arrive (w.start (Path.ofText t)) front] := by
  rw [way, hsteps, origins_concat]

theorem tail_goal_mem_way : (w.goal t).tail ∈ w.way t := by
  rw [goal_of_steps hsteps, way_of_steps hsteps]
  exact List.mem_append_right _ List.mem_cons_self

/-- With directories all the way, the steps in front of the name lead to the directory that the
    path lies in. -/
theorem walk_front {tree : FileTree} (hfits : ∀ step ∈ front, step.Fits)
    (hway : ∀ k ∈ w.way t, tree.lookup k = some .directory) :
    walk tree (w.start (Path.ofText t)) front = .ok (w.goal t).tail := by
  have hdir := hway _ (tail_goal_mem_way hsteps)
  refine (walk_eq_ok_iff (by simp [hdir])).2 ⟨?_, fun k hk => hway k ?_, hfits⟩
  · rw [goal_of_steps hsteps]
    rfl
  · rw [way_of_steps hsteps]
    exact List.mem_append_left _ hk

/-- The same without the steps that stay. -/
theorem walk_parent {tree : FileTree} (hfits : ∀ step ∈ front, step.Fits)
    (hway : ∀ k ∈ w.way t, tree.lookup k = some .directory) :
    walk tree (w.start (Path.ofText t).parent) (Path.ofText t).parent.steps
      = .ok (w.goal t).tail := by
  have hdir := hway _ (tail_goal_mem_way hsteps)
  rw [parent_steps hsteps]
  refine (walk_eq_ok_iff (by simp [hdir])).2 ⟨?_, fun k hk => hway k ?_, fits_filter_iff.2 hfits⟩
  · rw [goal_of_steps hsteps]
    exact arrive_filter _ _
  · rw [way, hsteps, ← mem_origins_filter, origins_concat]
    exact List.mem_append_left _ hk

end Steps

section Room

variable {w : Workspace} {t : Text}

/-- A path with room at its end is a way to a directory, and a name. -/
theorem Room.exists_steps (h : w.Room t) :
    ∃ front name, (Path.ofText t).steps = front ++ [.down name] ∧ (∀ step ∈ front, step.Fits) ∧
      Text.utf8Length name ≤ maxNameLength := by
  obtain ⟨name, hlast⟩ := h.named
  obtain ⟨front, hsteps⟩ := List.getLast?_eq_some_iff.1 hlast
  refine ⟨front, name, hsteps, fun step hstep => h.fits step (by simp [hsteps, hstep]), ?_⟩
  exact h.fits (.down name) (by simp [hsteps])

theorem Room.start_mem_way (h : w.Room t) : w.start (Path.ofText t) ∈ w.way t := by
  obtain ⟨front, name, hsteps, -, -⟩ := h.exists_steps
  rw [way, hsteps]
  exact mem_origins_self _ _ _

/-- Where there is room for a file, the directories on the way can be made. -/
theorem Room.makeParent (h : w.Room t) :
    ∃ made, w.makeParent t = ({ w with tree := made }, .ok ()) ∧
      w.tree.WithDirectories (w.way t) made := by
  obtain ⟨front, name, hsteps, hfits, -⟩ := h.exists_steps
  have hok := makeParent_of_clear hsteps h.legal h.start_directory hfits h.clear
  obtain ⟨-, -, -, hdirs⟩ := makeParent_eq_ok hsteps hok
  exact ⟨(w.makeParent t).1.tree, Prod.ext (makeParent_fst w t) hok, hdirs⟩

/-- A name is found for a temporary file in the directory that a path lies in, once that is
    made. -/
def FindsName (w : Workspace) (t : Text) : Prop :=
  ∃ name, w.temporaryNames.choose (w.makeParent t).1.tree (w.goal t).tail (Path.directoryText t)
    = .ok name

/-- Where there is room for a file, a steady naming finds a temporary name if it does so in another
    workspace. -/
theorem Room.findsName {other : Workspace} (h : w.Room t) (hnames : w.temporaryNames.Steady)
    (hname : other.FindsName t) (hsame : other.temporaryNames = w.temporaryNames)
    (hgoal : other.goal t = w.goal t) : w.FindsName t := by
  obtain ⟨front, name, hsteps, -, -⟩ := h.exists_steps
  obtain ⟨made, hparent, hdirs⟩ := h.makeParent
  unfold FindsName at hname
  rw [hsame, hgoal] at hname
  refine hnames ?_ hname
  rw [hparent]
  show made.lookup _ = _
  rw [hdirs, if_pos (tail_goal_mem_way hsteps)]

end Room

/-! ### Staging and moving -/

/-- A temporary file can be made exactly if the directory is there and a name is found. -/
theorem stage_eq_ok_iff {w : Workspace} {t : Text} {content : ByteArray} {staged : FileTree}
    {temporary : Location} :
    w.stage t content = .ok (staged, temporary) ↔ ∃ l name,
      walk w.tree (w.start (Path.ofText t).parent) (Path.ofText t).parent.steps = .ok l ∧
      w.tree.lookup l = some .directory ∧
      w.temporaryNames.choose w.tree l (Path.directoryText t) = .ok name ∧
      staged = w.tree.put (name :: l) (.file content) ∧ temporary = name :: l := by
  constructor
  · intro h
    obtain ⟨l, hwalk, h⟩ := bind_eq_ok_iff.1 h
    split at h
    · exact absurd h (by simp)
    · exact absurd h (by simp)
    · next hdir =>
      obtain ⟨name, hname, h⟩ := bind_eq_ok_iff.1 h
      obtain ⟨rfl, rfl⟩ := Prod.mk.inj (Except.ok.inj h)
      exact ⟨l, name, hwalk, hdir, hname, rfl, rfl⟩
  · rintro ⟨l, name, hwalk, hdir, hname, rfl, rfl⟩
    refine bind_eq_ok_iff.2 ⟨l, hwalk, ?_⟩
    rw [hdir]
    exact bind_eq_ok_iff.2 ⟨name, hname, rfl⟩

/-- What a path of names behind a way through directories leads to. -/
theorem target_of_walk {t : FileTree} {l parent : Location} {front : List Step} {name : Text}
    (hwalk : walk t l front = .ok parent) (hdir : t.lookup parent = some .directory)
    (hname : Text.utf8Length name ≤ maxNameLength) :
    target t l (front ++ [.down name]) = .ok (.named (name :: parent)) := by
  rw [target, List.getLast?_concat, List.dropLast_concat]
  refine bind_eq_ok_iff.2 ⟨parent, hwalk, ?_⟩
  simp [hdir, Nat.not_lt.2 hname]

section Made

variable {w : Workspace} {t : Text} {made : FileTree} (h : w.Room t)
  (hway : ∀ k ∈ w.way t, made.lookup k = some .directory)
include h hway

/-- With directories all the way the file is staged beside its place. -/
theorem Room.stage {name : Text} (content : ByteArray)
    (hname : w.temporaryNames.choose made (w.goal t).tail (Path.directoryText t) = .ok name) :
    { w with tree := made }.stage t content = .ok
      (made.put (name :: (w.goal t).tail) (.file content), name :: (w.goal t).tail) := by
  obtain ⟨front, last, hsteps, hfits, -⟩ := h.exists_steps
  exact stage_eq_ok_iff.2 ⟨(w.goal t).tail, name, walk_parent hsteps hfits hway,
    hway _ (tail_goal_mem_way hsteps), hname, rfl, rfl⟩

/-- A staged file is moved to its place if that is no directory. -/
theorem Room.moveFile {content : ByteArray} {staged : FileTree} {temporary : Location}
    (hstaged : Staged made content staged temporary)
    (hplace : made.lookup (w.goal t) ≠ some .directory) :
    { w with tree := staged }.moveFile temporary t
      = .ok ((staged.remove temporary).put (w.goal t) (.file content)) := by
  obtain ⟨front, name, hsteps, hfits, hname⟩ := h.exists_steps
  -- The temporary file stands where nothing stood, so it is in the way of no directory.
  have hway' : ∀ k ∈ w.way t, staged.lookup k = some .directory :=
    fun k hk => hstaged.lookup_directory_iff.2 (hway k hk)
  have htarget := target_of_walk (walk_front hsteps hfits hway')
    (hway' _ (tail_goal_mem_way hsteps)) hname
  have hgoal : name :: (w.goal t).tail = w.goal t := by rw [goal_of_steps hsteps]; rfl
  rw [← hsteps, hgoal] at htarget
  have hfree : staged.isDirectory (w.goal t) = false := by
    rw [← Bool.not_eq_true, isDirectory_iff, hstaged.lookup_directory_iff]
    exact hplace
  refine bind_eq_ok_iff.2 ⟨(), checkPlace_eq_ok_iff.2 h.legal, bind_eq_ok_iff.2 ⟨_, htarget, ?_⟩⟩
  simp [h.slash, hfree, hstaged.lookup_temporary]

end Made

/-! ### Writing -/

section Writing

variable {w : Workspace} {t : Text} {content : ByteArray}

/-- Where there is room for a file and for a temporary one, writing succeeds. -/
theorem writeFile_of_room (hroom : w.Room t) (hname : w.FindsName t) (content : ByteArray) :
    (w.writeFile t content).2 = .ok () := by
  obtain ⟨made, hparent, hdirs⟩ := hroom.makeParent
  -- All the way there are directories now, and the place is none.
  have hway : ∀ k ∈ w.way t, made.lookup k = some .directory := by
    intro k hk
    rw [hdirs k, if_pos hk]
  have hplace : made.lookup (w.goal t) ≠ some .directory := by
    rw [hdirs, if_neg hroom.goal_not_mem]
    exact hroom.goal_no_directory
  obtain ⟨name, hchoose⟩ := hname
  rw [hparent] at hchoose
  have hstage := hroom.stage hway content hchoose
  have hmove := hroom.moveFile hway (stage_eq_ok hstage) hplace
  unfold writeFile
  rw [hparent]
  dsimp only
  rw [hstage]
  dsimp only
  rw [hmove]

/-- The steps of a write that succeeds: directories are made up to the name that the path ends in, the
    file is staged there, and then it is put in its place. -/
structure Written (w : Workspace) (t : Text) (content : ByteArray) (front : List Step) (name : Text)
    (made staged : FileTree) (temporary : Location) : Prop where
  legal : Legal t
  slash : (Path.ofText t).slash = false
  steps : (Path.ofText t).steps = front ++ [.down name]
  name_fits : Text.utf8Length name ≤ maxNameLength
  makeParent : w.makeParent t = ({ w with tree := made }, .ok ())
  stage : { w with tree := made }.stage t content = .ok (staged, temporary)
  goal_no_directory : staged.lookup (w.goal t) ≠ some .directory
  tree : (w.writeFile t content).1.tree = (staged.remove temporary).put (w.goal t) (.file content)

theorem exists_written (h : (w.writeFile t content).2 = .ok ()) :
    ∃ front name made staged temporary,
      w.Written t content front name made staged temporary := by
  -- Each of the three steps may end the write; here none of them does.
  rcases writeFile_cases w t content with ⟨grown, e, -, hwrite⟩ | ⟨grown, hparent, hrest⟩
  · simp [hwrite] at h
  rcases hrest with ⟨e, -, hwrite⟩ | ⟨staged, temporary, hstage, hrest⟩
  · simp [hwrite] at h
  rcases hrest with ⟨e, -, hwrite⟩ | ⟨tree, hmove, hwrite⟩
  · simp [hwrite] at h
  obtain ⟨made, rfl⟩ : ∃ made, grown = { w with tree := made } := by
    refine ⟨(w.makeParent t).1.tree, ?_⟩
    rw [← makeParent_fst, hparent]
  obtain ⟨child, moved, hplace, hslash, htarget, hchild, hsource, rfl⟩ := moveFile_eq_ok hmove
  obtain rfl : content = moved := by
    have heq := (stage_eq_ok hstage).lookup_temporary.symm.trans hsource
    simpa using heq
  obtain ⟨front, name, parent, hsteps, rfl, hwalk, hdir, hname⟩ := target_eq_named htarget
  -- The walk in the tree with the temporary file ends where the steps lead to.
  have hend : arrive (w.start (Path.ofText t)) front = parent :=
    ((walk_eq_ok_iff (by simp [hdir])).1 hwalk).1
  have hgoal : w.goal t = name :: parent := by rw [goal_of_steps hsteps, hend]
  refine ⟨front, name, made, staged, temporary, checkPlace_eq_ok_iff.1 hplace, hslash, hsteps, hname,
    hparent, hstage, ?_, ?_⟩
  · rw [hgoal]
    exact hchild
  · rw [hwrite, hgoal]

section Written

variable {front : List Step} {name : Text} {made staged : FileTree} {temporary : Location}
  (h : w.Written t content front name made staged temporary)
include h

theorem Written.clear :
    w.tree.lookup (w.start (Path.ofText t)) = some .directory ∧ (∀ step ∈ front, step.Fits) ∧
      Clear w.tree (w.way t) ∧ w.tree.WithDirectories (w.way t) made := by
  have hparent := makeParent_eq_ok h.steps (by rw [h.makeParent])
  rwa [h.makeParent] at hparent

theorem Written.lookup_way {k : Location} (hk : k ∈ w.way t) :
    made.lookup k = some .directory := by
  obtain ⟨-, -, -, hdirs⟩ := h.clear
  rw [hdirs, if_pos hk]

theorem Written.lookup_goal : made.lookup (w.goal t) ≠ some .directory :=
  fun hdir => h.goal_no_directory ((stage_eq_ok h.stage).lookup_directory_iff.2 hdir)

theorem Written.room : w.Room t := by
  obtain ⟨hstart, hfits, hclear, hdirs⟩ := h.clear
  have hway : w.goal t ∉ w.way t := fun hmem => h.lookup_goal (h.lookup_way hmem)
  refine ⟨h.legal, ?_, h.slash, ⟨name, by simp [h.steps]⟩, hstart, hclear, hway, ?_⟩
  · rw [h.steps]
    intro step hstep
    rcases List.mem_append.1 hstep with hstep | hstep
    · exact hfits step hstep
    · obtain rfl := List.mem_singleton.1 hstep
      exact h.name_fits
  · have hgoal := h.lookup_goal
    rwa [hdirs, if_neg hway] at hgoal

theorem Written.findsName : w.FindsName t := by
  obtain ⟨-, hfits, -, -⟩ := h.clear
  obtain ⟨l, found, hwalk, -, hchoose, -, -⟩ := stage_eq_ok_iff.1 h.stage
  -- The temporary file is staged in the directory that the path lies in.
  obtain rfl : (w.goal t).tail = l :=
    Except.ok.inj ((walk_parent h.steps hfits fun k => h.lookup_way).symm.trans hwalk)
  refine ⟨found, ?_⟩
  rw [h.makeParent]
  exact hchoose

/-- The file stands in its place, there are directories all the way, and nothing else has changed. -/
theorem Written.withFile :
    w.tree.WithFile (w.way t) (w.goal t) content (w.writeFile t content).1.tree := by
  obtain ⟨-, -, -, hdirs⟩ := h.clear
  have hstaged := stage_eq_ok h.stage
  have hdir := hstaged.lookup_directory_iff.2 (h.lookup_way (tail_goal_mem_way h.steps))
  have hgoal : w.goal t = name :: (w.goal t).tail := by rw [goal_of_steps h.steps]; rfl
  have hplace : staged.lookup (name :: (w.goal t).tail) ≠ some .directory := by
    rw [← hgoal]
    exact h.goal_no_directory
  obtain ⟨hself, hother⟩ := hstaged.lookup_put_remove hdir hplace
  rw [← hgoal] at hself hother
  rw [h.tree]
  intro k
  by_cases hk : k = w.goal t
  · rw [if_pos hk, hk]
    exact hself
  · rw [if_neg hk]
    exact (hother k hk).trans (hdirs k)

end Written

/-- Writing changes nothing of a workspace but its tree. -/
theorem writeFile_fst (w : Workspace) (t : Text) (content : ByteArray) :
    (w.writeFile t content).1 = { w with tree := (w.writeFile t content).1.tree } := by
  have hmade := makeParent_fst w t
  rcases writeFile_cases w t content with ⟨grown, e, hparent, hwrite⟩ | ⟨grown, hparent, hrest⟩
  · rw [hparent] at hmade
    rw [hwrite]
    exact hmade
  · rw [hparent] at hmade
    have hgrown : grown = { w with tree := grown.tree } := hmade
    have hcwd : grown.cwd = w.cwd := by rw [hgrown]
    have hnames : grown.temporaryNames = w.temporaryNames := by rw [hgrown]
    rcases hrest with ⟨e, -, hwrite⟩ | ⟨staged, temporary, -, ⟨e, -, hwrite⟩ | ⟨tree, -, hwrite⟩⟩
    · rw [hwrite]
      exact hmade
    · rw [hwrite, hcwd, hnames]
    · rw [hwrite, hcwd, hnames]

/-- Writing succeeds exactly if there is room for the file, and for a temporary file beside it. -/
theorem writeFile_eq_ok_iff :
    (w.writeFile t content).2 = .ok () ↔ w.Room t ∧ w.FindsName t := by
  constructor
  · intro h
    obtain ⟨front, name, made, staged, temporary, hwritten⟩ := exists_written h
    exact ⟨hwritten.room, hwritten.findsName⟩
  · exact fun h => writeFile_of_room h.1 h.2 content

/-- After writing, the file stands in its place, there are directories all the way, and nothing else
    has changed. -/
theorem withFile_writeFile (h : (w.writeFile t content).2 = .ok ()) :
    w.tree.WithFile (w.way t) (w.goal t) content (w.writeFile t content).1.tree := by
  obtain ⟨front, name, made, staged, temporary, hwritten⟩ := exists_written h
  exact hwritten.withFile

/-- A file that is put in with the directories above it is what its path leads to. -/
theorem Room.holds_withFile {text : Text} {tree : FileTree} (h : w.Room t)
    (hfile : w.tree.WithFile (w.way t) (w.goal t) (encodeText text) tree) :
    { w with tree := tree }.Holds t text := by
  have hplace : tree.lookup (w.goal t) = some (.file (encodeText text)) := by rw [hfile, if_pos rfl]
  refine ⟨w.goal t, ⟨h.legal, h.fits, rfl, ?_, by simp [hplace], by simp [h.slash]⟩, hplace⟩
  intro k hk
  have hne : k ≠ w.goal t := by
    rintro rfl
    exact h.goal_not_mem hk
  show tree.lookup k = _
  have hway : k ∈ w.way t := hk
  rw [hfile, if_neg hne, if_pos hway]

end Writing

end Workspace

end CInterface
