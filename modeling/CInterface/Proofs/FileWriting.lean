import CInterface.Workspace.Access
import Mathlib.Data.List.Basic

namespace CInterface

/-!
# Workspaces — what writing a file changes

Writing goes through several steps that each may fail: directories are made, a temporary file is
put beside the place, and it is moved there or removed again.  A tree is seen here through what
stands at each location.

* `FileTree.AddsDirectories` — one tree is another one with directories more.
* `Workspace.addsDirectories_makeDirectories` — making directories does nothing else.
* `Workspace.Staged` — what a temporary file changes; removing it undoes that.
* `Workspace.writeFile_cases` — the ways that writing can go.
* `Workspace.writeFile_error` — a failed write adds directories at most.
* `Workspace.writeFile_ok` — a write that succeeds puts the content where the path leads, and
  touches no other file.
-/

/-! ### Trees with directories more -/

namespace FileTree

/-- The second tree is the first one with directories where nothing stood. -/
def AddsDirectories (t u : FileTree) : Prop :=
  ∀ l, u.lookup l = t.lookup l ∨ t.lookup l = none ∧ u.lookup l = some .directory

variable {t u v : FileTree}

theorem AddsDirectories.refl (t : FileTree) : t.AddsDirectories t :=
  fun _ => .inl rfl

theorem AddsDirectories.trans (h : t.AddsDirectories u) (h' : u.AddsDirectories v) :
    t.AddsDirectories v := by
  intro l
  rcases h l with hl | ⟨hnone, hl⟩
  · rw [← hl]
    exact h' l
  · -- A directory that was added stays one.
    rcases h' l with hl' | ⟨hnone', -⟩
    · exact .inr ⟨hnone, hl'.trans hl⟩
    · simp [hl] at hnone'

/-- No file appears, disappears or changes. -/
theorem AddsDirectories.lookup_file_iff (h : t.AddsDirectories u) {l : Location}
    {content : ByteArray} :
    u.lookup l = some (.file content) ↔ t.lookup l = some (.file content) := by
  rcases h l with hl | ⟨hnone, hl⟩
  · rw [hl]
  · simp [hnone, hl]

theorem AddsDirectories.lookup_directory (h : t.AddsDirectories u) {l : Location}
    (hl : t.lookup l = some .directory) : u.lookup l = some .directory := by
  rcases h l with h | ⟨hnone, -⟩
  · rw [h, hl]
  · simp [hl] at hnone

/-- A directory is put where nothing stands.  Outside of directories nothing is put at all. -/
theorem addsDirectories_put {l : Location} (h : t.lookup l = none) :
    t.AddsDirectories (t.put l .directory) := by
  cases l with
  | nil => simp at h
  | cons name l =>
    by_cases hdir : t.lookup l = some .directory
    · intro m
      by_cases hm : m = name :: l
      · subst hm
        exact .inr ⟨h, t.lookup_put_self .directory hdir⟩
      · exact .inl (t.lookup_put_ne .directory hm (by simp [h]))
    · rw [t.put_of_not_directory .directory hdir]
      exact .refl t

end FileTree

namespace Workspace

open FileTree

/-! ### Making directories -/

/-- What is there is passed through or ends the way, and a directory is put only where nothing
    stands. -/
theorem addsDirectories_makeDirectories (made : Bool) (t : FileTree) (l : Location)
    (steps : List Step) : t.AddsDirectories (makeDirectories made t l steps).1 := by
  fun_induction makeDirectories made t l steps with
  | case1 made t l => exact .refl t
  | case2 made t l steps ih => exact ih
  | case3 made t l steps ih => exact ih
  | case4 made t l name steps hlong => exact .refl t
  | case5 made t l name steps hlong hdir ih => exact ih
  | case6 made t l name steps hlong content hfile => exact .refl t
  | case7 made t l name steps hlong hnone ih => exact (addsDirectories_put hnone).trans ih

theorem addsDirectories_makeParent (w : Workspace) (t : Text) :
    w.tree.AddsDirectories (w.makeParent t).1.tree := by
  unfold makeParent
  split
  · exact .refl w.tree
  · dsimp only
    split
    · exact addsDirectories_makeDirectories false w.tree _ _
    · exact .refl w.tree

/-! ### Following paths in two trees -/

/-- What follows a step that can fail is reached only if the step succeeds. -/
theorem bind_eq_ok_iff {ε α β : Type} {x : Except ε α} {f : α → Except ε β} {b : β} :
    (x >>= f) = .ok b ↔ ∃ a, x = .ok a ∧ f a = .ok b := by
  cases x with
  | error e => simp [bind, Except.bind]
  | ok a => simp [bind, Except.bind]

/-- Where one step from a directory leads to. -/
def Leads (t : FileTree) (l : Location) : Step → Location → Prop
  | .here, m => m = l
  | .up, m => m = l.tail
  | .down name, m =>
    Text.utf8Length name ≤ maxNameLength ∧ t.lookup (name :: l) ≠ none ∧ m = name :: l

/-- A way of at least one step starts at a directory and goes on from where the step leads to. -/
theorem walk_cons_eq_ok_iff {t : FileTree} {l m : Location} {step : Step} {steps : List Step} :
    walk t l (step :: steps) = .ok m ↔
      t.lookup l = some .directory ∧ ∃ k, Leads t l step k ∧ walk t k steps = .ok m := by
  cases step with
  | here =>
    rw [walk]
    cases t.lookup l with
    | none => simp
    | some e => cases e <;> simp [Leads]
  | up =>
    rw [walk]
    cases t.lookup l with
    | none => simp
    | some e => cases e <;> simp [Leads]
  | down name =>
    rw [walk]
    cases t.lookup l with
    | none => simp
    | some e =>
      cases e with
      | file content => simp
      | directory =>
        by_cases hlong : maxNameLength < Text.utf8Length name
        · simp [Leads, hlong, Nat.not_le.2 hlong]
        · by_cases hnone : t.lookup (name :: l) = none
          · simp [Leads, hlong, hnone]
          · simp [Leads, hlong, hnone, Nat.le_of_not_lt]

/-- One way goes on where another one ends. -/
theorem walk_append {t : FileTree} {l k m : Location} {front behind : List Step}
    (hfront : walk t l front = .ok k) (hbehind : walk t k behind = .ok m) :
    walk t l (front ++ behind) = .ok m := by
  induction front generalizing l with
  | nil =>
    obtain rfl : l = k := Except.ok.inj hfront
    exact hbehind
  | cons step front ih =>
    obtain ⟨hl, j, hj, hwalk⟩ := walk_cons_eq_ok_iff.1 hfront
    exact walk_cons_eq_ok_iff.2 ⟨hl, j, hj, ih hwalk⟩

/-- A step to a directory leads there too in a tree that has the directory. -/
theorem Leads.mono {t u : FileTree} {l m : Location} {step : Step} (h : Leads t l step m)
    (hm : u.lookup m = some .directory) : Leads u l step m := by
  cases step with
  | here => exact h
  | up => exact h
  | down name =>
    obtain ⟨hname, -, rfl⟩ := h
    exact ⟨hname, by simp [hm], rfl⟩

/-- A way that ends at a directory passes through directories only, so it is a way of each tree
    that has these directories too. -/
theorem walk_mono {t u : FileTree}
    (hdirs : ∀ l, t.lookup l = some .directory → u.lookup l = some .directory)
    {l m : Location} {steps : List Step} (h : walk t l steps = .ok m)
    (hm : t.lookup m = some .directory) :
    t.lookup l = some .directory ∧ walk u l steps = .ok m := by
  induction steps generalizing l with
  | nil =>
    obtain rfl : l = m := Except.ok.inj h
    exact ⟨hm, rfl⟩
  | cons step steps ih =>
    obtain ⟨hl, k, hk, hwalk⟩ := walk_cons_eq_ok_iff.1 h
    obtain ⟨hkdir, hwalk'⟩ := ih hwalk
    exact ⟨hl, walk_cons_eq_ok_iff.2 ⟨hdirs l hl, k, hk.mono (hdirs k hkdir), hwalk'⟩⟩

/-- A name that a path leads to: a directory with room for the name, at the end of all steps but
    the last. -/
theorem target_eq_named {t : FileTree} {l child : Location} {steps : List Step}
    (h : target t l steps = .ok (.named child)) :
    ∃ front name parent, steps = front ++ [.down name] ∧ child = name :: parent ∧
      walk t l front = .ok parent ∧ t.lookup parent = some .directory ∧
      Text.utf8Length name ≤ maxNameLength := by
  rw [target] at h
  split at h
  · exact absurd h (by simp)
  · next last hlast =>
    obtain ⟨front, rfl⟩ := List.getLast?_eq_some_iff.1 hlast
    rw [List.dropLast_concat] at h
    obtain ⟨parent, hwalk, h⟩ := bind_eq_ok_iff.1 h
    split at h
    · exact absurd h (by simp)
    · exact absurd h (by simp)
    · next hdir =>
      cases last with
      | here => exact absurd h (by simp)
      | up => exact absurd h (by simp)
      | down name =>
        by_cases hlong : maxNameLength < Text.utf8Length name
        · simp [hlong] at h
        · obtain rfl : name :: parent = child := by simpa [hlong] using h
          exact ⟨front, name, parent, rfl, rfl, hwalk, hdir, by omega⟩

/-! ### Temporary files -/

/-- The second tree is the first one with a file at a location where nothing stood. -/
structure Staged (t : FileTree) (content : ByteArray) (staged : FileTree) (temporary : Location) :
    Prop where
  lookup_before : t.lookup temporary = none
  lookup_temporary : staged.lookup temporary = some (.file content)
  lookup_ne : ∀ l, l ≠ temporary → staged.lookup l = t.lookup l

theorem stage_eq_ok {w : Workspace} {t : Text} {content : ByteArray} {staged : FileTree}
    {temporary : Location} (h : w.stage t content = .ok (staged, temporary)) :
    Staged w.tree content staged temporary := by
  obtain ⟨l, -, h⟩ := bind_eq_ok_iff.1 h
  split at h
  · exact absurd h (by simp)
  · exact absurd h (by simp)
  · next hdir =>
    obtain ⟨name, hname, h⟩ := bind_eq_ok_iff.1 h
    obtain ⟨rfl, rfl⟩ := Prod.mk.inj (Except.ok.inj h)
    have hfree := w.temporaryNames.lookup_choose hname
    exact ⟨hfree, w.tree.lookup_put_self _ hdir,
      fun m hm => w.tree.lookup_put_ne _ hm (by simp [hfree])⟩

section Staged

variable {t staged : FileTree} {content : ByteArray} {temporary : Location}

/-- Without the temporary file the tree is as it was. -/
theorem Staged.lookup_remove (h : Staged t content staged temporary) (l : Location) :
    (staged.remove temporary).lookup l = t.lookup l := by
  have hne : temporary ≠ [] := by
    intro hnil
    have hbefore := h.lookup_before
    simp [hnil] at hbefore
  by_cases hl : l = temporary
  · rw [hl, staged.lookup_remove_self hne, h.lookup_before]
  · rw [staged.lookup_remove_ne hl (by simp [h.lookup_temporary]), h.lookup_ne l hl]

/-- The directories are those that were there before. -/
theorem Staged.lookup_directory_iff (h : Staged t content staged temporary) {l : Location} :
    staged.lookup l = some .directory ↔ t.lookup l = some .directory := by
  by_cases hl : l = temporary
  · simp [hl, h.lookup_temporary, h.lookup_before]
  · rw [h.lookup_ne l hl]

/-- Put in place of the temporary file, the content stands in its place and nothing else is
    changed. -/
theorem Staged.lookup_put_remove (h : Staged t content staged temporary) {name : Text}
    {parent : Location} (hdir : staged.lookup parent = some .directory)
    (hplace : staged.lookup (name :: parent) ≠ some .directory) :
    ((staged.remove temporary).put (name :: parent) (.file content)).lookup (name :: parent)
        = some (.file content) ∧
      ∀ l, l ≠ name :: parent →
        ((staged.remove temporary).put (name :: parent) (.file content)).lookup l
          = t.lookup l := by
  have hparent : (staged.remove temporary).lookup parent = some .directory := by
    rw [h.lookup_remove]
    exact h.lookup_directory_iff.1 hdir
  have hfree : (staged.remove temporary).lookup (name :: parent) ≠ some .directory := by
    rw [h.lookup_remove]
    exact fun hd => hplace (h.lookup_directory_iff.2 hd)
  refine ⟨FileTree.lookup_put_self _ _ hparent, ?_⟩
  intro l hl
  rw [FileTree.lookup_put_ne _ _ hl hfree, h.lookup_remove]

end Staged

/-! ### Moving a file -/

theorem moveFile_eq_ok {w : Workspace} {source : Location} {t : Text} {tree : FileTree}
    (h : w.moveFile source t = .ok tree) :
    ∃ child content, checkPlace t = .ok () ∧ (Path.ofText t).slash = false ∧
      target w.tree (w.start (Path.ofText t)) (Path.ofText t).steps = .ok (.named child) ∧
      w.tree.lookup child ≠ some .directory ∧ w.tree.lookup source = some (.file content) ∧
      tree = (w.tree.remove source).put child (.file content) := by
  obtain ⟨_, hplace, h⟩ := bind_eq_ok_iff.1 h
  obtain ⟨named, htarget, h⟩ := bind_eq_ok_iff.1 h
  cases named with
  | fixed => exact absurd h (by simp)
  | named child =>
    simp only at h
    split at h
    · exact absurd h (by simp)
    · next hslash =>
      split at h
      · exact absurd h (by simp)
      · next hdir =>
        split at h
        · next content hsource =>
          refine ⟨child, content, hplace, by simpa using hslash, htarget, ?_, hsource,
            (Except.ok.inj h).symm⟩
          intro hchild
          exact hdir (by simp [FileTree.isDirectory, hchild])
        · exact absurd h (by simp)

/-- A path whose place can hold a file can be followed. -/
theorem checkText_of_checkPlace {t : Text} (h : checkPlace t = .ok ()) : checkText t = .ok () := by
  rw [checkPlace] at h
  rw [checkText]
  split at h
  · exact absurd h (by simp)
  · next hnul => rw [if_neg hnul, h]

/-- Once a file stands at the name that a path leads to, and no directory is gone, the path leads
    to that file. -/
theorem locate_of_target {w : Workspace} {t : Text} {tree : FileTree} {child : Location}
    {content : ByteArray} (hplace : checkPlace t = .ok ()) (hslash : (Path.ofText t).slash = false)
    (htarget : target w.tree (w.start (Path.ofText t)) (Path.ofText t).steps = .ok (.named child))
    (hdirs : ∀ l, w.tree.lookup l = some .directory → tree.lookup l = some .directory)
    (hfile : tree.lookup child = some (.file content)) :
    { w with tree := tree }.locate t = .ok child := by
  obtain ⟨front, name, parent, hsteps, rfl, hwalk, hdir, hname⟩ := target_eq_named htarget
  -- The way to the directory is the same as before, and one step leads on to the file.
  have hfront := (walk_mono hdirs hwalk hdir).2
  have hlast : walk tree parent [.down name] = .ok (name :: parent) :=
    walk_cons_eq_ok_iff.2 ⟨hdirs parent hdir, _, ⟨hname, by simp [hfile], rfl⟩, rfl⟩
  have hway : walk tree (w.start (Path.ofText t)) (Path.ofText t).steps = .ok (name :: parent) := by
    rw [hsteps]
    exact walk_append hfront hlast
  refine bind_eq_ok_iff.2 ⟨(), checkText_of_checkPlace hplace, bind_eq_ok_iff.2 ⟨_, hway, ?_⟩⟩
  simp [hfile, hslash]

/-- A temporary file that is moved stands where the path leads to, and nothing else is changed. -/
theorem Staged.moveFile {w : Workspace} {staged : FileTree} {content : ByteArray}
    {temporary : Location} (h : Staged w.tree content staged temporary) {t : Text} {tree : FileTree}
    (hmove : { w with tree := staged }.moveFile temporary t = .ok tree) :
    ∃ place, { w with tree := tree }.locate t = .ok place ∧
      tree.lookup place = some (.file content) ∧ w.tree.lookup place ≠ some .directory ∧
      ∀ l, l ≠ place → tree.lookup l = w.tree.lookup l := by
  obtain ⟨child, moved, hplace, hslash, htarget, hchild, hsource, rfl⟩ := moveFile_eq_ok hmove
  obtain rfl : content = moved := by
    have heq := h.lookup_temporary.symm.trans hsource
    simpa using heq
  obtain ⟨front, name, parent, -, rfl, -, hdir, -⟩ := target_eq_named htarget
  obtain ⟨hself, hother⟩ := h.lookup_put_remove hdir hchild
  refine ⟨name :: parent, ?_, hself, fun hd => hchild (h.lookup_directory_iff.2 hd), hother⟩
  refine locate_of_target (w := { w with tree := staged }) hplace hslash htarget ?_ hself
  intro l hl
  have hne : l ≠ name :: parent := by
    rintro rfl
    exact hchild hl
  rw [hother l hne]
  exact h.lookup_directory_iff.1 hl

/-! ### Writing a file -/

/-- The ways that writing can go: the directories cannot be made, no temporary file can be made, the
    temporary file cannot be moved and is removed, or it is moved. -/
theorem writeFile_cases (w : Workspace) (t : Text) (content : ByteArray) :
    (∃ grown e, w.makeParent t = (grown, .error e) ∧
      w.writeFile t content = (grown, .error e)) ∨
    ∃ grown, w.makeParent t = (grown, .ok ()) ∧
      ((∃ e, grown.stage t content = .error e ∧ w.writeFile t content = (grown, .error e)) ∨
      ∃ staged temporary, grown.stage t content = .ok (staged, temporary) ∧
        ((∃ e, { grown with tree := staged }.moveFile temporary t = .error e ∧
          w.writeFile t content = ({ grown with tree := staged.remove temporary }, .error e)) ∨
        ∃ tree, { grown with tree := staged }.moveFile temporary t = .ok tree ∧
          w.writeFile t content = ({ grown with tree := tree }, .ok ()))) := by
  unfold writeFile
  split
  · next grown e hparent => exact .inl ⟨grown, e, hparent, rfl⟩
  · next grown hparent =>
    refine .inr ⟨grown, hparent, ?_⟩
    split
    · next e hstage => exact .inl ⟨e, hstage, rfl⟩
    · next staged temporary hstage =>
      refine .inr ⟨staged, temporary, hstage, ?_⟩
      split
      · next e hmove => exact .inl ⟨e, hmove, rfl⟩
      · next tree hmove => exact .inr ⟨tree, hmove, rfl⟩

/-- A failed write adds directories at most. -/
theorem writeFile_error {w : Workspace} {t : Text} {content : ByteArray} {e : FileError}
    (h : (w.writeFile t content).2 = .error e) :
    w.tree.AddsDirectories (w.writeFile t content).1.tree := by
  have hgrown := addsDirectories_makeParent w t
  rcases writeFile_cases w t content with ⟨grown, e', hparent, hwrite⟩ | ⟨grown, hparent, hrest⟩
  · rwa [hwrite, ← hparent]
  · rw [hparent] at hgrown
    rcases hrest with ⟨e', -, hwrite⟩ | ⟨staged, temporary, hstage, hrest⟩
    · rwa [hwrite]
    · rcases hrest with ⟨e', -, hwrite⟩ | ⟨tree, -, hwrite⟩
      · rw [hwrite]
        exact hgrown.trans fun l => .inl ((stage_eq_ok hstage).lookup_remove l)
      · simp [hwrite] at h

/-- A write that succeeds puts the content where the path then leads to.  Every other file is as it
    was, and every directory is still there. -/
theorem writeFile_ok {w : Workspace} {t : Text} {content : ByteArray}
    (h : (w.writeFile t content).2 = .ok ()) :
    ∃ place, (w.writeFile t content).1.locate t = .ok place ∧
      (w.writeFile t content).1.tree.lookup place = some (.file content) ∧
      (∀ l other, l ≠ place → ((w.writeFile t content).1.tree.lookup l = some (.file other) ↔
        w.tree.lookup l = some (.file other))) ∧
      ∀ l, w.tree.lookup l = some .directory →
        (w.writeFile t content).1.tree.lookup l = some .directory := by
  have hgrown := addsDirectories_makeParent w t
  rcases writeFile_cases w t content with ⟨grown, e', hparent, hwrite⟩ | ⟨grown, hparent, hrest⟩
  · simp [hwrite] at h
  · rw [hparent] at hgrown
    rcases hrest with ⟨e', -, hwrite⟩ | ⟨staged, temporary, hstage, hrest⟩
    · simp [hwrite] at h
    · rcases hrest with ⟨e', -, hwrite⟩ | ⟨tree, hmove, hwrite⟩
      · simp [hwrite] at h
      · obtain ⟨place, hlocate, hself, hbefore, hother⟩ := (stage_eq_ok hstage).moveFile hmove
        rw [hwrite]
        refine ⟨place, hlocate, hself, ?_, ?_⟩
        · intro l other hl
          rw [hother l hl]
          exact hgrown.lookup_file_iff
        · intro l hl
          have hdir := hgrown.lookup_directory hl
          have hne : l ≠ place := by
            rintro rfl
            exact hbefore hdir
          rw [hother l hne]
          exact hdir

end Workspace

end CInterface
