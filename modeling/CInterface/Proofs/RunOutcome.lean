import CInterface.Proofs.RunStages

namespace CInterface

/-!
# The command line — outcome of a run

How a run ends is decided by its stages, and by nothing in the workspace that its stages do not look
at.  In particular a run that makes no bindings never looks at the types file.

* `FileTree.SameOutside` — trees that differ in one place only.
* `Workspace.Avoids`, `CommandLine.Invocation.Avoids` — paths, and runs, that keep away from a place.
* `CommandLine.Invocation.Avoids.runInvocation` — such runs end alike, whatever stands in the place.
* `CommandLine.run_first_broken` — the outcome of a run by its stages.
-/

/-! ### Trees that differ in one place -/

/-- The same stands at every location that is neither the place nor below it. -/
def FileTree.SameOutside (t : FileTree) (place : Location) (u : FileTree) : Prop :=
  ∀ k, ¬ place <:+ k → u.lookup k = t.lookup k

theorem FileTree.SameOutside.symm {place : Location} {t u : FileTree} (h : t.SameOutside place u) :
    u.SameOutside place t :=
  fun k hk => (h k hk).symm

theorem FileTree.sameOutside_put {t : FileTree} {l : Location} (e : Entry)
    (h : t.lookup l ≠ some .directory) : t.SameOutside l (t.put l e) := by
  intro k hk
  have hne : k ≠ l := by
    rintro rfl
    exact hk List.suffix_rfl
  exact t.lookup_put_ne e hne h

namespace Workspace

/-- A path neither leads to the place or below it nor goes through it. -/
def Avoids (w : Workspace) (place : Location) (path : Text) : Prop :=
  ∀ k ∈ w.goal path :: w.way path, ¬ place <:+ k

section Frame

variable {w : Workspace} {place : Location} {tree : FileTree} {path : Text}
  (h : w.Avoids place path) (hsame : w.tree.SameOutside place tree)
include h hsame

theorem Avoids.lookup_goal : tree.lookup (w.goal path) = w.tree.lookup (w.goal path) :=
  hsame _ (h _ List.mem_cons_self)

theorem Avoids.lookup_way {k : Location} (hk : k ∈ w.way path) :
    tree.lookup k = w.tree.lookup k :=
  hsame k (h k (List.mem_cons_of_mem _ hk))

/-- A path that avoids the place still leads to the same location. -/
theorem Avoids.reaches {l : Location} (hreaches : w.Reaches path l) :
    { w with tree := tree }.Reaches path l := by
  obtain rfl := hreaches.goal_eq
  have hgoal := h.lookup_goal hsame
  refine ⟨hreaches.legal, hreaches.fits, rfl, fun k hk => ?_, ?_, fun hslash => ?_⟩
  · exact (h.lookup_way hsame hk).trans (hreaches.directories k hk)
  · show tree.lookup (w.goal path) ≠ none
    rw [hgoal]
    exact hreaches.stands
  · exact hgoal.trans (hreaches.slash hslash)

/-- A path that avoids the place still holds its text. -/
theorem Avoids.holds {text : Text} (hholds : w.Holds path text) :
    { w with tree := tree }.Holds path text := by
  obtain ⟨l, hreaches, hfile⟩ := hholds
  obtain rfl := hreaches.goal_eq
  exact ⟨w.goal path, h.reaches hsame hreaches, (h.lookup_goal hsame).trans hfile⟩

/-- Where a path avoids the place, there is still room for a file. -/
theorem Avoids.room (hroom : w.Room path) : { w with tree := tree }.Room path := by
  refine ⟨hroom.legal, hroom.fits, hroom.slash, hroom.named, ?_, fun k hk content => ?_,
    hroom.goal_not_mem, ?_⟩
  · exact (h.lookup_way hsame hroom.start_mem_way).trans hroom.start_directory
  · show tree.lookup k ≠ _
    rw [h.lookup_way hsame hk]
    exact hroom.clear k hk content
  · show tree.lookup (w.goal path) ≠ _
    rw [h.lookup_goal hsame]
    exact hroom.goal_no_directory

end Frame

end Workspace

namespace CommandLine

/-! ### What the types file has no part in -/

namespace Invocation

/-- The paths of the run, those of the types file aside, keep away from the place. -/
structure Avoids (inv : Invocation) (w : Workspace) (place : Location) : Prop where
  settings : w.Avoids place (inv.settingsPath w)
  interface : w.Avoids place inv.interfacePath
  destination : inv.destination ≠ "-".toList → w.Avoids place inv.destination

section Frame

variable {inv : Invocation} {w : Workspace} {place : Location} {tree : FileTree}

/-- Which places the paths keep away from does not depend on what stands in the tree. -/
theorem Avoids.withTree (h : inv.Avoids w place) (tree : FileTree) :
    inv.Avoids { w with tree := tree } place :=
  ⟨h.settings, h.interface, h.destination⟩

theorem Avoids.chooses (h : inv.Avoids w place) (hsame : w.tree.SameOutside place tree)
    {path : Text} (hchosen : inv.Chooses w path) : inv.Chooses { w with tree := tree } path := by
  obtain ⟨rfl, hreaches⟩ := hchosen
  refine ⟨rfl, fun hnone => ?_⟩
  obtain ⟨l, hl⟩ := hreaches hnone
  exact ⟨l, h.settings.reaches hsame hl⟩

section Same

variable (h : inv.Avoids w place) (hsame : w.tree.SameOutside place tree)
include h hsame

theorem Avoids.chooses_iff {path : Text} :
    inv.Chooses { w with tree := tree } path ↔ inv.Chooses w path :=
  ⟨(h.withTree tree).chooses hsame.symm, h.chooses hsame⟩

/-- The settings file holds the same text. -/
theorem Avoids.holds_iff {path text : Text} (hchosen : inv.Chooses w path) :
    { w with tree := tree }.Holds path text ↔ w.Holds path text := by
  obtain ⟨rfl, -⟩ := hchosen
  exact ⟨(h.withTree tree).settings.holds hsame.symm, h.settings.holds hsame⟩

theorem Avoids.uses {s : Settings} (huses : inv.Uses w s) :
    inv.Uses { w with tree := tree } s := by
  cases huses with
  | file hchosen hholds hdecoded =>
    exact .file (h.chooses hsame hchosen) ((h.holds_iff hsame hchosen).2 hholds) hdecoded
  | defaults hnone => exact .defaults fun path hpath => hnone path ((h.chooses_iff hsame).1 hpath)

/-- A run that makes no bindings makes the same artifact. -/
theorem Avoids.yields (ha : inv.artifact ≠ .ffi) {out : Text} (hyields : inv.Yields w out) :
    inv.Yields { w with tree := tree } out := by
  obtain ⟨s, text, types, huses, hinputs, rfl⟩ := hyields
  exact ⟨s, text, types, h.uses hsame huses,
    ⟨h.interface.holds hsame hinputs.interface, fun hffi => absurd hffi ha, hinputs.types_other⟩, rfl⟩

/-- A run that makes no bindings still passes its stages. -/
theorem Avoids.passes (ha : inv.artifact ≠ .ffi) (hnames : w.temporaryNames.Steady)
    {stage : Stage} (hpasses : inv.Passes w stage) : inv.Passes { w with tree := tree } stage := by
  cases stage with
  | settingsFile =>
    intro path hpath
    have hchosen := (h.chooses_iff hsame).1 hpath
    obtain ⟨text, hholds⟩ := hpasses path hchosen
    exact ⟨text, (h.holds_iff hsame hchosen).2 hholds⟩
  | settingsText =>
    intro path text hpath htext
    have hchosen := (h.chooses_iff hsame).1 hpath
    exact hpasses path text hchosen ((h.holds_iff hsame hchosen).1 htext)
  | interface =>
    obtain ⟨text, hholds⟩ := hpasses
    exact ⟨text, h.interface.holds hsame hholds⟩
  | types => exact fun hffi => absurd hffi ha
  | destination =>
    -- A temporary name may be another one in the other tree, but there is one there too.
    intro hfile
    have hroom := (h.destination hfile).room hsame (hpasses hfile).1
    exact ⟨hroom, hroom.findsName hnames (hpasses hfile).2 rfl rfl⟩

end Same

theorem Avoids.passes_iff (h : inv.Avoids w place) (hsame : w.tree.SameOutside place tree)
    (ha : inv.artifact ≠ .ffi) (hnames : w.temporaryNames.Steady) {stage : Stage} :
    inv.Passes { w with tree := tree } stage ↔ inv.Passes w stage :=
  ⟨(h.withTree tree).passes hsame.symm ha hnames, h.passes hsame ha hnames⟩

theorem Avoids.firstBroken_iff (h : inv.Avoids w place) (hsame : w.tree.SameOutside place tree)
    (ha : inv.artifact ≠ .ffi) (hnames : w.temporaryNames.Steady) {stage : Stage} :
    inv.FirstBroken { w with tree := tree } stage ↔ inv.FirstBroken w stage := by
  unfold FirstBroken
  simp only [h.passes_iff hsame ha hnames]

/-- Two runs that make no bindings end alike, whatever stands in a place that their paths avoid. -/
theorem Avoids.runInvocation (h : inv.Avoids w place) (hsame : w.tree.SameOutside place tree)
    (ha : inv.artifact ≠ .ffi) (hnames : w.temporaryNames.Steady) :
    let e := CommandLine.runInvocation inv w
    let e' := CommandLine.runInvocation inv { w with tree := tree }
    e'.code = e.code ∧ e'.stdout = e.stdout ∧
    (∀ stage, inv.FailsAt { w with tree := tree } stage e' ↔ inv.FailsAt w stage e) ∧
    (e.code = 0 → ∃ out, e.Delivers inv.destination out ∧ e'.Delivers inv.destination out) := by
  intro e e'
  have hfails : ∀ stage, inv.FailsAt { w with tree := tree } stage e' ↔ inv.FailsAt w stage e := by
    intro stage
    rw [failsAt_runInvocation_iff, failsAt_runInvocation_iff]
    exact h.firstBroken_iff hsame ha hnames
  rcases runInvocation_cases inv w with ⟨stage, hbroken, hfail⟩ | ⟨hpasses, hcode, out, hyields, hout⟩
  · have hfail' := (hfails stage).2 hfail
    rcases code_runInvocation inv w with ⟨hcode, -⟩ | ⟨hcode, hstdout⟩
    · exact absurd hcode hfail.code_ne_zero
    · rcases code_runInvocation inv { w with tree := tree } with ⟨hcode', -⟩ | ⟨hcode', hstdout'⟩
      · exact absurd hcode' hfail'.code_ne_zero
      · exact ⟨hcode'.trans hcode.symm, hstdout'.trans hstdout.symm, hfails,
          fun hzero => absurd hzero hfail.code_ne_zero⟩
  · rcases runInvocation_cases inv { w with tree := tree } with
      ⟨stage, -, hfail'⟩ | ⟨-, hcode', out', hyields', hout'⟩
    · exact absurd hcode ((hfails stage).1 hfail').code_ne_zero
    · -- What the first run makes is what the second one makes.
      obtain rfl := (h.yields hsame ha hyields).unique hyields'
      exact ⟨hcode'.trans hcode.symm, hout.stdout_eq hout', hfails, fun _ => ⟨out, hout, hout'⟩⟩

end Frame

end Invocation

/-- Only an invocation for bindings depends on the types path that the environment sets. -/
theorem parse_typesPath {env : Environment} {args : List Text} {inv : Invocation}
    (hparse : parse env args = .ok inv) (ha : inv.artifact ≠ .ffi) (types : Option Text) :
    parse { env with typesPath := types } args = .ok inv := by
  unfold parse at hparse ⊢
  obtain ⟨⟨top, rest⟩, htop, hparse⟩ := Workspace.bind_eq_ok_iff.1 hparse
  refine Workspace.bind_eq_ok_iff.2 ⟨(top, rest), htop, ?_⟩
  dsimp only at hparse ⊢
  split at hparse
  · exact absurd hparse (by simp)
  · next name rest =>
    split at hparse
    · exact absurd hparse (by simp)
    · next a hlabel =>
      obtain ⟨⟨given, left⟩, hgiven, hparse⟩ := Workspace.bind_eq_ok_iff.1 hparse
      obtain ⟨interfacePath, hinterface, hparse⟩ := Workspace.bind_eq_ok_iff.1 hparse
      refine Workspace.bind_eq_ok_iff.2 ⟨(given, left), hgiven, ?_⟩
      refine Workspace.bind_eq_ok_iff.2 ⟨interfacePath, hinterface, ?_⟩
      by_cases hffi : a = .ffi
      · -- The invocation would be one for bindings.
        rw [if_pos hffi] at hparse
        obtain ⟨typesPath, -, hparse⟩ := Workspace.bind_eq_ok_iff.1 hparse
        split at hparse
        · exact absurd hparse (by simp)
        · rw [← Except.ok.inj hparse] at ha
          exact absurd hffi ha
      · rw [if_neg hffi] at hparse ⊢
        exact hparse

/-- **The first broken stage decides the outcome.**  A run fails with a failure of a stage, at the file
    of that stage, exactly if the stage cannot be passed and all earlier ones can; it succeeds exactly
    if all of them can be passed.  A run that succeeds has made its artifact by the settings of its
    settings file, and by the defaults only if it has no such file.  A run that makes no bindings ends
    alike and delivers the same, whatever types path the environment sets and whatever stands there or
    at the directories above, so long as the other paths of the run keep away from that place. -/
theorem run_first_broken (env : Environment) (args : List Text) (w : Workspace)
    {inv : Invocation} (hparse : parse env args = .ok inv) :
    let e := run env args w
    (∀ stage, inv.FailsAt w stage e ↔ inv.FirstBroken w stage) ∧
    (e.code = 0 ↔ ∀ stage, inv.Passes w stage) ∧
    (e.code = 0 ∧ (∃ out, inv.Yields w out ∧ e.Delivers inv.destination out) ∨
      e.code = 1 ∧ e.stdout = []) ∧
    (inv.artifact ≠ .ffi → w.temporaryNames.Steady → ∀ types place tree,
      place <:+ w.goal (types.getD defaultRequest.typesPath) →
      w.tree.SameOutside place tree → inv.Avoids w place →
      let e' := run { env with typesPath := types } args { w with tree := tree }
      e'.code = e.code ∧ e'.stdout = e.stdout ∧
      (∀ stage, inv.FailsAt { w with tree := tree } stage e' ↔ inv.FailsAt w stage e) ∧
      (e.code = 0 → ∃ out, e.Delivers inv.destination out ∧ e'.Delivers inv.destination out)) := by
  have hrun : run env args w = runInvocation inv w := by rw [run, hparse]
  intro e
  have he : e = runInvocation inv w := hrun
  rw [he]
  refine ⟨fun stage => failsAt_runInvocation_iff, code_runInvocation_eq_zero_iff, ?_, ?_⟩
  · rcases runInvocation_cases inv w with ⟨stage, -, hfails⟩ | ⟨-, hcode, hdelivered⟩
    · rcases code_runInvocation inv w with ⟨hcode, -⟩ | hfailed
      · exact absurd hcode hfails.code_ne_zero
      · exact .inr hfailed
    · exact .inl ⟨hcode, hdelivered⟩
  · -- That the types path leads to the place is not needed: the run looks at no such place.
    intro ha hnames types place tree _ hsame havoids
    have hrun' : run { env with typesPath := types } args { w with tree := tree }
        = runInvocation inv { w with tree := tree } := by
      rw [run, parse_typesPath hparse ha types]
    rw [hrun']
    exact havoids.runInvocation hsame ha hnames

/-- With a directory for the interface file and a file for the destination's directory, the run for
    the symbols fails at the interface, with and without a types file. -/
theorem run_first_broken_interface :
    let w : Workspace :=
      { tree := ⟨[("in.c".toList, .directory []), ("out".toList, .file (Workspace.encodeText []))]⟩ }
    let typed : FileTree :=
      w.tree.put ["types.ts".toList] (.file (Workspace.encodeText "type P = number".toList))
    let args : List Text :=
      ["symbols".toList, "out/symbols.json".toList, "--interface".toList, "in.c".toList]
    ∃ inv, parse {} args = .ok inv ∧ ¬ inv.Passes w .destination ∧
      inv.FailsAt w .interface (run {} args w) ∧
      inv.FailsAt { w with tree := typed } .interface
        (run { typesPath := some "types.ts".toList } args { w with tree := typed }) := by
  intro w typed args
  let inv : Invocation :=
    { artifact := .symbols, destination := "out/symbols.json".toList
      interfacePath := "in.c".toList, typesPath := defaultRequest.typesPath, exportTypes := false
      asyncify := false, verbose := false, configPath := none }
  have hparse : parse {} args = .ok inv := rfl
  have hnone : ∀ path, ¬ inv.Chooses w path := by
    rintro path ⟨rfl, hreaches⟩
    have hexists := Workspace.pathExists_iff.2 (hreaches rfl)
    exact absurd hexists (by decide)
  have hbroken : inv.FirstBroken w .interface := by
    obtain ⟨hfile, htext⟩ := (Invocation.Uses.defaults hnone).passes
    refine ⟨?_, by simp [Stage.earlier, hfile, htext]⟩
    rintro ⟨text, hholds⟩
    have hread : w.readText "in.c".toList = .error .isDirectory := rfl
    exact hholds.readText_ne_error hread
  have hdestination : ¬ inv.Passes w .destination := by
    intro hpasses
    obtain ⟨hroom, -⟩ := hpasses (by decide)
    exact hroom.clear ["out".toList] (by decide) _ rfl
  have hsame : w.tree.SameOutside ["types.ts".toList] typed := by
    refine FileTree.sameOutside_put _ fun hdirectory => ?_
    have hfree : w.tree.lookup ["types.ts".toList] = none := rfl
    exact absurd (hfree.symm.trans hdirectory) (by decide)
  have havoids : inv.Avoids w ["types.ts".toList] := by
    refine ⟨?_, ?_, fun _ => ?_⟩ <;> unfold Workspace.Avoids <;> decide
  obtain ⟨hfails, -, -, htypes⟩ := run_first_broken {} args w hparse
  obtain ⟨-, -, hfails', -⟩ := htypes (by decide) TemporaryNames.steady_numbered
    (some "types.ts".toList) ["types.ts".toList] typed (by decide) hsame havoids
  have hfail := (hfails .interface).2 hbroken
  exact ⟨inv, hparse, hdestination, hfail, (hfails' .interface).2 hfail⟩

end CommandLine

end CInterface
