import CInterface.Proofs.Lines
import CInterface.Proofs.PathResolution

namespace CInterface

/-!
# Workspaces — making directories

When the directories on the way of a path can be made, told by what stands there before, and what
the tree is afterwards.

* `FileTree.WithDirectories`, `FileTree.WithFile` — a tree with directories put in, and with a file
  and the directories above it put in, location by location.
* `Workspace.makeDirectories_eq_ok`, `Workspace.makeDirectories_of_clear` — making directories
  succeeds exactly if no file stands on the way.
* `Workspace.makeParent_eq_ok`, `Workspace.makeParent_of_clear` — the same for the directory that a
  path lies in.
-/

/-! ### Trees with something put in -/

namespace FileTree

/-- The second tree is the first one with directories at the given locations. -/
def WithDirectories (t : FileTree) (way : List Location) (u : FileTree) : Prop :=
  ∀ k, u.lookup k = if k ∈ way then some .directory else t.lookup k

/-- The second tree is the first one with a file in a place, and with directories at the locations
    on the way to it. -/
def WithFile (t : FileTree) (way : List Location) (place : Location) (content : ByteArray)
    (u : FileTree) : Prop :=
  ∀ k, u.lookup k =
    if k = place then some (.file content) else if k ∈ way then some .directory else t.lookup k

variable {t u : FileTree} {l : Location}

theorem isDirectory_iff : t.isDirectory l = true ↔ t.lookup l = some .directory := by
  unfold isDirectory
  split
  · next h => simp [h]
  · next h => simpa using h

/-- Above a directory there is a directory. -/
theorem lookup_tail (h : t.lookup l = some .directory) : t.lookup l.tail = some .directory := by
  cases l with
  | nil => exact h
  | cons name l =>
    have hstands : (t.lookup (name :: l)).isSome := by simp [h]
    exact lookup_tail_of_isSome hstands

/-- A directory that is there already may be counted among those put in. -/
theorem WithDirectories.cons {way : List Location} (h : t.WithDirectories way u)
    (hl : t.lookup l = some .directory) : t.WithDirectories (l :: way) u := by
  intro k
  rw [h k]
  by_cases hk : k = l
  · subst hk
    by_cases hway : k ∈ way
    · simp [hway]
    · simp [hway, hl]
  · simp [hk]

/-- The directories may be put in one by one. -/
theorem WithDirectories.of_put {name : Text} {way : List Location}
    (hnone : t.lookup (name :: l) = none) (hmem : name :: l ∈ way)
    (h : (t.put (name :: l) .directory).WithDirectories way u) : t.WithDirectories way u := by
  intro k
  rw [h k]
  by_cases hway : k ∈ way
  · rw [if_pos hway, if_pos hway]
  · have hne : k ≠ name :: l := by
      rintro rfl
      exact hway hmem
    rw [if_neg hway, if_neg hway, t.lookup_put_ne _ hne (by simp [hnone])]

end FileTree

namespace Workspace

open FileTree

/-! ### Making directories -/

/-- No file stands at any of the locations. -/
def Clear (t : FileTree) (way : List Location) : Prop :=
  ∀ k ∈ way, ∀ content, t.lookup k ≠ some (.file content)

theorem Clear.cons {t : FileTree} {l : Location} {way : List Location}
    (hl : t.lookup l = some .directory) (h : Clear t way) : Clear t (l :: way) := by
  refine List.forall_mem_cons.2 ⟨fun content hfile => ?_, h⟩
  simp [hl] at hfile

/-- Whether a way is clear of files does not change when a directory is put where nothing stood. -/
theorem clear_put_iff {t : FileTree} {l : Location} {name : Text} {way : List Location}
    (hl : t.lookup l = some .directory) (hnone : t.lookup (name :: l) = none) :
    Clear (t.put (name :: l) .directory) way ↔ Clear t way := by
  have hfile : ∀ k content, (t.put (name :: l) .directory).lookup k = some (.file content) ↔
      t.lookup k = some (.file content) := by
    intro k content
    by_cases hk : k = name :: l
    · subst hk
      rw [t.lookup_put_self _ hl, hnone]
      simp
    · rw [t.lookup_put_ne _ hk (by simp [hnone])]
  unfold Clear
  simp only [ne_eq, hfile]

theorem mem_origins_self (l : Location) (steps : List Step) (last : Step) :
    l ∈ origins l (steps ++ [last]) := by
  cases steps with
  | nil => exact List.mem_cons_self
  | cons step steps => exact List.mem_cons_self

/-- If the directories on a way can be made, no file stands on it and no name is too long, and then
    there are directories all the way. -/
theorem makeDirectories_eq_ok {made : Bool} {t : FileTree} {l : Location} {steps : List Step}
    (last : Step) (hl : t.lookup l = some .directory)
    (h : (makeDirectories made t l steps).2 = .ok ()) :
    (∀ step ∈ steps, step.Fits) ∧ Clear t (origins l (steps ++ [last])) ∧
      t.WithDirectories (origins l (steps ++ [last])) (makeDirectories made t l steps).1 := by
  -- Induction along the way; what carries it is that the steps so far end at a directory.
  fun_induction makeDirectories made t l steps with
  | case1 made t l =>
    have hclear : Clear t [] := by simp [Clear]
    have hdirs : t.WithDirectories [] t := fun k => by simp
    exact ⟨by simp, hclear.cons hl, hdirs.cons hl⟩
  | case2 made t l steps ih =>
    obtain ⟨hfits, hclear, hdirs⟩ := ih hl h
    exact ⟨List.forall_mem_cons.2 ⟨trivial, hfits⟩, hclear.cons hl, hdirs.cons hl⟩
  | case3 made t l steps ih =>
    obtain ⟨hfits, hclear, hdirs⟩ := ih (lookup_tail hl) h
    exact ⟨List.forall_mem_cons.2 ⟨trivial, hfits⟩, hclear.cons hl, hdirs.cons hl⟩
  | case4 made t l name steps hlong => exact absurd h (by simp)
  | case5 made t l name steps hlong hdir ih =>
    obtain ⟨hfits, hclear, hdirs⟩ := ih hdir h
    exact ⟨List.forall_mem_cons.2 ⟨Nat.le_of_not_lt hlong, hfits⟩, hclear.cons hl, hdirs.cons hl⟩
  | case6 made t l name steps hlong content hfile => exact absurd h (by simp)
  | case7 made t l name steps hlong hnone ih =>
    obtain ⟨hfits, hclear, hdirs⟩ := ih (t.lookup_put_self _ hl) h
    have hmem := mem_origins_self (name :: l) steps last
    exact ⟨List.forall_mem_cons.2 ⟨Nat.le_of_not_lt hlong, hfits⟩,
      ((clear_put_iff hl hnone).1 hclear).cons hl, (hdirs.of_put hnone hmem).cons hl⟩

/-- On a way without files the directories can be made. -/
theorem makeDirectories_of_clear {made : Bool} {t : FileTree} {l : Location} {steps : List Step}
    (last : Step) (hl : t.lookup l = some .directory) (hfits : ∀ step ∈ steps, step.Fits)
    (hclear : Clear t (origins l (steps ++ [last]))) :
    (makeDirectories made t l steps).2 = .ok () := by
  fun_induction makeDirectories made t l steps with
  | case1 made t l => rfl
  | case2 made t l steps ih =>
    exact ih hl (List.forall_mem_cons.1 hfits).2 (List.forall_mem_cons.1 hclear).2
  | case3 made t l steps ih =>
    exact ih (lookup_tail hl) (List.forall_mem_cons.1 hfits).2 (List.forall_mem_cons.1 hclear).2
  | case4 made t l name steps hlong =>
    exact absurd (List.forall_mem_cons.1 hfits).1 (Nat.not_le.2 hlong)
  | case5 made t l name steps hlong hdir ih =>
    exact ih hdir (List.forall_mem_cons.1 hfits).2 (List.forall_mem_cons.1 hclear).2
  | case6 made t l name steps hlong content hfile =>
    have hmem := List.mem_cons_of_mem l (mem_origins_self (name :: l) steps last)
    exact absurd hfile (hclear _ hmem content)
  | case7 made t l name steps hlong hnone ih =>
    exact ih (t.lookup_put_self _ hl) (List.forall_mem_cons.1 hfits).2
      ((clear_put_iff hl hnone).2 (List.forall_mem_cons.1 hclear).2)

/-! ### The directory that a path lies in -/

/-- Steps that stay change neither the way nor its end. -/
theorem arrive_filter (l : Location) (steps : List Step) :
    arrive l (steps.filter (· ≠ .here)) = arrive l steps := by
  induction steps generalizing l with
  | nil => rfl
  | cons step steps ih =>
    cases step with
    | here => exact ih l
    | up => exact ih l.tail
    | down name => exact ih (name :: l)

theorem mem_origins_filter {l k : Location} {steps : List Step} {last : Step} :
    k ∈ origins l (steps.filter (· ≠ .here) ++ [last]) ↔ k ∈ origins l (steps ++ [last]) := by
  induction steps generalizing l with
  | nil => rfl
  | cons step steps ih =>
    cases step with
    | here =>
      have hself := mem_origins_self l steps last
      show k ∈ origins l (steps.filter (· ≠ .here) ++ [last]) ↔ k ∈ l :: origins l (steps ++ [last])
      rw [ih, List.mem_cons]
      constructor
      · exact .inr
      · rintro (rfl | hk)
        · exact hself
        · exact hk
    | up =>
      show k ∈ l :: origins l.tail (steps.filter (· ≠ .here) ++ [last]) ↔
        k ∈ l :: origins l.tail (steps ++ [last])
      rw [List.mem_cons, List.mem_cons, ih]
    | down name =>
      show k ∈ l :: origins (name :: l) (steps.filter (· ≠ .here) ++ [last]) ↔
        k ∈ l :: origins (name :: l) (steps ++ [last])
      rw [List.mem_cons, List.mem_cons, ih]

theorem fits_filter_iff {steps : List Step} :
    (∀ step ∈ steps.filter (· ≠ .here), step.Fits) ↔ ∀ step ∈ steps, step.Fits := by
  simp only [List.mem_filter, and_imp]
  constructor
  · intro h step hstep
    by_cases hhere : step = .here
    · subst hhere
      trivial
    · exact h step hstep (by simpa using hhere)
  · exact fun h step hstep _ => h step hstep

/-- Without its last name, and with no step that stays, a path is the path of its directory. -/
theorem parent_steps {p : Path} {front : List Step} {name : Text}
    (h : p.steps = front ++ [.down name]) : p.parent.steps = front.filter (· ≠ .here) := by
  show (p.steps.filter (· ≠ .here)).dropLast = _
  rw [h, List.filter_append]
  simp

/-- Pieces from the front of a joined text make a text that it begins with. -/
theorem joinWith_isPrefix (sep : Text) {front all : List Text} (h : front <+: all) :
    Text.joinWith sep front <+: Text.joinWith sep all := by
  obtain ⟨behind, rfl⟩ := h
  cases front with
  | nil => exact List.nil_prefix
  | cons piece front =>
    rw [List.cons_append, Text.joinWith_cons, Text.joinWith_cons, List.flatMap_append,
      ← List.append_assoc]
    exact List.prefix_append _ _

theorem dropIdle_isPrefix (names : List Text) : Path.dropIdle names <+: names := by
  rw [Path.dropIdle, ← List.reverse_suffix, List.reverse_reverse]
  exact List.dropWhile_suffix _

/-- A path's text begins with the text of its directory. -/
theorem parentText_isPrefix (t : Text) : Path.parentText t <+: t := by
  have hpieces : Path.dropIdle (Path.dropIdle (Text.splitOn '/' t)).dropLast
      <+: Text.splitOn '/' t :=
    (dropIdle_isPrefix _).trans ((List.dropLast_prefix _).trans (dropIdle_isPrefix _))
  have hjoined := joinWith_isPrefix ['/'] hpieces
  rwa [Text.joinWith_splitOn] at hjoined

theorem checkParent_of_legal {t : Text} (h : Legal t) : checkParent t = .ok () := by
  rw [checkParent]
  split
  · rfl
  · next hne =>
    obtain ⟨behind, hbehind⟩ := parentText_isPrefix t
    have hlength : Text.utf8Length t
        = Text.utf8Length (Path.parentText t) + Text.utf8Length behind := by
      conv => lhs; rw [← hbehind]
      show (String.ofList (Path.parentText t ++ behind)).utf8ByteSize = _
      rw [String.ofList_append, String.utf8ByteSize_append]
      rfl
    have hle := h.length_le
    refine checkText_eq_ok_iff.2 ⟨by simpa using hne, fun hnul => h.nul_not_mem ?_, by omega⟩
    exact (parentText_isPrefix t).subset hnul

theorem checkPlace_eq_ok_iff {t : Text} : checkPlace t = .ok () ↔ Legal t := by
  constructor
  · exact fun h => checkText_eq_ok_iff.1 (checkText_of_checkPlace h)
  · intro h
    rw [checkPlace, hasNul_eq_false_iff.2 h.nul_not_mem]
    exact checkLength_eq_ok_iff.2 ⟨h.ne_nil, h.length_le⟩

section Parent

variable {w : Workspace} {t : Text} {front : List Step} {name : Text}

/-- Making directories changes nothing of a workspace but its tree. -/
theorem makeParent_fst (w : Workspace) (t : Text) :
    (w.makeParent t).1 = { w with tree := (w.makeParent t).1.tree } := by
  unfold makeParent
  split
  · rfl
  · dsimp only
    split
    · rfl
    · rfl

/-- If the directory of a path can be made, no file stands on the way, and afterwards there are
    directories all the way. -/
theorem makeParent_eq_ok (hsteps : (Path.ofText t).steps = front ++ [.down name])
    (h : (w.makeParent t).2 = .ok ()) :
    w.tree.lookup (w.start (Path.ofText t)) = some .directory ∧ (∀ step ∈ front, step.Fits) ∧
      Clear w.tree (w.way t) ∧ w.tree.WithDirectories (w.way t) (w.makeParent t).1.tree := by
  unfold makeParent at h ⊢
  split at h
  · exact absurd h (by simp)
  · dsimp only at h ⊢
    split at h
    · next hstart =>
      have hdir := isDirectory_iff.1 hstart
      obtain ⟨hfits, hclear, hdirs⟩ := makeDirectories_eq_ok (.down name) hdir h
      rw [parent_steps hsteps] at hfits hclear hdirs ⊢
      -- The parent's steps leave out those that stay, which are on no other way.
      refine ⟨hdir, fits_filter_iff.1 hfits, ?_, ?_⟩
      · intro k hk
        rw [way, hsteps, ← mem_origins_filter] at hk
        exact hclear k hk
      · intro k
        have hmem : k ∈ w.way t ↔ k ∈ origins (w.start (Path.ofText t))
            (front.filter (· ≠ .here) ++ [.down name]) := by
          rw [way, hsteps, mem_origins_filter]
        rw [if_pos hstart]
        simp only [hmem]
        exact hdirs k
    · exact absurd h (by simp)

theorem makeParent_of_clear (hsteps : (Path.ofText t).steps = front ++ [.down name])
    (hlegal : Legal t) (hstart : w.tree.lookup (w.start (Path.ofText t)) = some .directory)
    (hfits : ∀ step ∈ front, step.Fits) (hclear : Clear w.tree (w.way t)) :
    (w.makeParent t).2 = .ok () := by
  unfold makeParent
  rw [checkParent_of_legal hlegal]
  dsimp only
  have hdir : w.tree.isDirectory (w.start (Path.ofText t).parent) = true :=
    isDirectory_iff.2 hstart
  rw [if_pos hdir, parent_steps hsteps]
  refine makeDirectories_of_clear (.down name) hstart (fits_filter_iff.2 hfits) ?_
  intro k hk
  refine hclear k ?_
  rw [way, hsteps]
  exact mem_origins_filter.1 hk

end Parent

end Workspace

end CInterface
