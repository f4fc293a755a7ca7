import CInterface.Proofs.RunDestinations

namespace CInterface

/-!
# The command line — stages of a run

A run goes through stages: it reads the settings file, decodes it, reads the interface file, reads
the types file if it makes bindings, and writes the artifact.  Which stages can be passed is told by
what stands in the workspace before the run, and the first one that cannot be passed decides how the
run ends.

* `CommandLine.Stage`, `CommandLine.Invocation.Passes` — the stages, and what each one needs.
* `CommandLine.Invocation.FirstBroken` — the first stage that lacks what it needs.
* `CommandLine.runInvocation_cases` — a run fails at its first broken stage, or makes its artifact.
* `CommandLine.failsAt_runInvocation_iff`, `CommandLine.code_runInvocation_eq_zero_iff` — where a run
  fails, and when it succeeds.
-/

namespace CommandLine

/-! ### The settings of a run -/

namespace Invocation

/-- The path where settings are looked for. -/
def settingsPath (inv : Invocation) (w : Workspace) : Text :=
  inv.configPath.getD (Settings.projectPath w.cwdText)

/-- The settings file of a run: the one that is asked for, else the one in the working directory if
    there is something under its name. -/
def Chooses (inv : Invocation) (w : Workspace) (path : Text) : Prop :=
  path = inv.settingsPath w ∧ (inv.configPath = none → ∃ l, w.Reaches path l)

/-- The settings that a run goes by: those that its settings file says, and the defaults only if it
    has no such file. -/
inductive Uses (inv : Invocation) (w : Workspace) : Settings → Prop
  | file {path text : Text} {s : Settings} (chosen : inv.Chooses w path)
      (holds : w.Holds path text) (decoded : Settings.ofText text = .ok s) : Uses inv w s
  | defaults (unchosen : ∀ path, ¬ inv.Chooses w path) : Uses inv w {}

variable {inv : Invocation} {w : Workspace} {path : Text} {s s' : Settings}

/-- A run has one settings file at most. -/
theorem Chooses.unique {path' : Text} (h : inv.Chooses w path) (h' : inv.Chooses w path') :
    path = path' :=
  h.1.trans h'.1.symm

theorem chosenPath?_eq_some_iff :
    Settings.chosenPath? w inv.configPath w.cwdText = some path ↔ inv.Chooses w path := by
  unfold Settings.chosenPath? Chooses settingsPath
  cases hconfig : inv.configPath with
  | some explicit => simp [eq_comm]
  | none =>
    -- The file in the working directory counts only if its path leads to something.
    simp only [Option.getD_none, forall_const]
    constructor
    · intro h
      split at h
      · next hexists =>
        obtain rfl := Option.some.inj h
        exact ⟨rfl, Workspace.pathExists_iff.1 hexists⟩
      · exact absurd h (by simp)
    · rintro ⟨rfl, hreaches⟩
      rw [if_pos (Workspace.pathExists_iff.2 hreaches)]

theorem Uses.unique (h : inv.Uses w s) (h' : inv.Uses w s') : s = s' := by
  cases h with
  | file hchosen hholds hdecoded =>
    cases h' with
    | file hchosen' hholds' hdecoded' =>
      obtain rfl := hchosen.unique hchosen'
      obtain rfl := hholds.unique hholds'
      exact Except.ok.inj (hdecoded.symm.trans hdecoded')
    | defaults hnone => exact absurd hchosen (hnone _)
  | defaults hnone =>
    cases h' with
    | file hchosen' _ _ => exact absurd hchosen' (hnone _)
    | defaults _ => rfl

/-- The settings are loaded, or their file cannot be read, or it cannot be decoded. -/
theorem settings_cases (inv : Invocation) (w : Workspace) :
    (∃ path cause, inv.Chooses w path ∧ w.readText path = .error cause ∧
      inv.settings w = .error (.readSettings path cause)) ∨
    (∃ path text cause, inv.Chooses w path ∧ w.Holds path text ∧
      Settings.ofText text = .error cause ∧ inv.settings w = .error (.decodeSettings path cause)) ∨
    ∃ s, inv.Uses w s ∧ inv.settings w = .ok s := by
  unfold settings Settings.discover
  cases hpath : Settings.chosenPath? w inv.configPath w.cwdText with
  | none =>
    refine .inr (.inr ⟨{}, .defaults fun path hchosen => ?_, rfl⟩)
    rw [chosenPath?_eq_some_iff.2 hchosen] at hpath
    exact absurd hpath (by simp)
  | some path =>
    have hchosen := chosenPath?_eq_some_iff.1 hpath
    simp only [Settings.load]
    cases hread : w.readText path with
    | error cause =>
      exact .inl ⟨path, cause, hchosen, hread, rfl⟩
    | ok text =>
      have hholds := Workspace.readText_eq_ok_iff.1 hread
      cases hdecode : Settings.ofText text with
      | error cause =>
        exact .inr (.inl ⟨path, text, cause, hchosen, hholds, hdecode, by simp [hdecode]⟩)
      | ok s => exact .inr (.inr ⟨s, .file hchosen hholds hdecode, by simp [hdecode]⟩)

end Invocation

/-! ### Stages -/

/-- The stages of a run. -/
inductive Stage
  | settingsFile
  | settingsText
  | interface
  | types
  | destination
  deriving Repr, DecidableEq

/-- The stages that a run goes through before one, in order. -/
def Stage.earlier : Stage → List Stage
  | settingsFile => []
  | settingsText => [settingsFile]
  | interface => [settingsFile, settingsText]
  | types => [settingsFile, settingsText, interface]
  | destination => [settingsFile, settingsText, interface, types]

/-- Of two different stages one is the earlier one. -/
theorem Stage.eq_or_earlier (a b : Stage) : a = b ∨ a ∈ b.earlier ∨ b ∈ a.earlier := by
  cases a <;> cases b <;> decide

namespace Invocation

/-- The workspace has what a stage of the run needs: a text in the settings file if there is such a
    file, settings in that text, a text in the interface file and for bindings in the types file, and
    room for the artifact if it goes to a file. -/
def Passes (inv : Invocation) (w : Workspace) : Stage → Prop
  | .settingsFile => ∀ path, inv.Chooses w path → ∃ text, w.Holds path text
  | .settingsText => ∀ path text, inv.Chooses w path → w.Holds path text →
      ∃ s, Settings.ofText text = .ok s
  | .interface => ∃ text, w.Holds inv.interfacePath text
  | .types => inv.artifact = .ffi → ∃ text, w.Holds inv.typesPath text
  | .destination => inv.destination ≠ "-".toList →
      w.Room inv.destination ∧ w.FindsName inv.destination

/-- The first stage of the run that cannot be passed. -/
def FirstBroken (inv : Invocation) (w : Workspace) (stage : Stage) : Prop :=
  ¬ inv.Passes w stage ∧ ∀ earlier ∈ stage.earlier, inv.Passes w earlier

/-- A failure that a stage of the run ends with; it names the file of that stage. -/
def FailureAt (inv : Invocation) (w : Workspace) : Stage → Failure → Prop
  | .settingsFile, f => ∃ path cause, inv.Chooses w path ∧ f = .readSettings path cause
  | .settingsText, f => ∃ path cause, inv.Chooses w path ∧ f = .decodeSettings path cause
  | .interface, f => ∃ cause, f = .readInterface inv.interfacePath cause
  | .types, f => ∃ cause, f = .readTypes inv.typesPath cause
  | .destination, f => ∃ cause, f = .write inv.destination cause

/-- A run ends with a failure of the stage. -/
def FailsAt (inv : Invocation) (w : Workspace) (stage : Stage) (e : Exit) : Prop :=
  ∃ f, e.failure = some f ∧ inv.FailureAt w stage f

/-- The artifact that a run makes, with a line feed behind it: by the settings in use, from the texts
    of the inputs. -/
def Yields (inv : Invocation) (w : Workspace) (out : Text) : Prop :=
  ∃ s text types, inv.Uses w s ∧ (inv.request s).Inputs inv.artifact w text types ∧
    out = (inv.request s).artifactOf inv.artifact text types ++ ['\n']

variable {inv : Invocation} {w : Workspace} {stage stage' : Stage}

/-- A run makes one artifact only. -/
theorem Yields.unique {out out' : Text} (h : inv.Yields w out) (h' : inv.Yields w out') :
    out = out' := by
  obtain ⟨s, text, types, huses, hinputs, rfl⟩ := h
  obtain ⟨s', text', types', huses', hinputs', rfl⟩ := h'
  obtain rfl := huses.unique huses'
  obtain rfl := hinputs.interface.unique hinputs'.interface
  by_cases ha : inv.artifact = .ffi
  · obtain rfl := (hinputs.types_ffi ha).unique (hinputs'.types_ffi ha)
    rfl
  · rw [hinputs.types_other ha, hinputs'.types_other ha]

/-- A failure belongs to one stage. -/
theorem FailureAt.unique {f : Failure} (h : inv.FailureAt w stage f)
    (h' : inv.FailureAt w stage' f) : stage = stage' := by
  -- Each stage has failures of its own constructor.
  cases stage <;> cases stage' <;> simp only [FailureAt] at h h' <;> grind

theorem FailsAt.unique {e : Exit} (h : inv.FailsAt w stage e) (h' : inv.FailsAt w stage' e) :
    stage = stage' := by
  obtain ⟨f, hf, hfailure⟩ := h
  obtain ⟨f', hf', hfailure'⟩ := h'
  obtain rfl : f = f' := Option.some.inj (hf.symm.trans hf')
  exact hfailure.unique hfailure'

/-- There is at most one first broken stage. -/
theorem FirstBroken.unique (h : inv.FirstBroken w stage) (h' : inv.FirstBroken w stage') :
    stage = stage' := by
  rcases stage.eq_or_earlier stage' with heq | hmem | hmem
  · exact heq
  · exact absurd (h'.2 stage hmem) h.1
  · exact absurd (h.2 stage' hmem) h'.1

/-- Settings in use are settings whose stages can be passed. -/
theorem Uses.passes {s : Settings} (h : inv.Uses w s) :
    inv.Passes w .settingsFile ∧ inv.Passes w .settingsText := by
  cases h with
  | file hchosen hholds hdecoded =>
    refine ⟨fun path hpath => ?_, fun path text hpath htext => ?_⟩
    · obtain rfl := hchosen.unique hpath
      exact ⟨_, hholds⟩
    · obtain rfl := hchosen.unique hpath
      obtain rfl := hholds.unique htext
      exact ⟨_, hdecoded⟩
  | defaults hnone =>
    exact ⟨fun path hpath => absurd hpath (hnone path),
      fun path _ hpath => absurd hpath (hnone path)⟩

end Invocation

/-! ### The first broken stage -/

/-- What a run leaves at its destination: it is printed, or the file holds it and nothing is
    printed. -/
def Exit.Delivers (e : Exit) (destination out : Text) : Prop :=
  if destination = "-".toList then e.stdout = out
  else e.stdout = [] ∧ e.workspace.Holds destination out

/-- Runs that deliver the same print the same. -/
theorem Exit.Delivers.stdout_eq {e e' : Exit} {destination out : Text}
    (h : e.Delivers destination out) (h' : e'.Delivers destination out) : e'.stdout = e.stdout := by
  unfold Exit.Delivers at h h'
  split at h
  · next hstdout =>
    rw [if_pos hstdout] at h'
    exact h'.trans h.symm
  · next hfile =>
    rw [if_neg hfile] at h'
    exact h'.1.trans h.1.symm

section Stages

variable {inv : Invocation} {w : Workspace} {s : Settings}

/-- A run that fails at a stage does not succeed. -/
theorem Invocation.FailsAt.code_ne_zero {stage : Stage}
    (h : inv.FailsAt w stage (runInvocation inv w)) : (runInvocation inv w).code ≠ 0 := by
  obtain ⟨f, hf, -⟩ := h
  rcases code_runInvocation inv w with ⟨-, hnone⟩ | ⟨hcode, -⟩
  · rw [hnone] at hf
    exact absurd hf (by simp)
  · rw [hcode]
    decide

/-- With its settings and inputs at hand, a run delivers its artifact if its destination can be
    written, and fails there else. -/
theorem runInvocation_of_inputs {text types : Text} (hsettings : inv.settings w = .ok s)
    (hinputs : (inv.request s).Inputs inv.artifact w text types) :
    (¬ inv.Passes w .destination ∧ inv.FailsAt w .destination (runInvocation inv w)) ∨
    inv.Passes w .destination ∧ (runInvocation inv w).code = 0 ∧
      (runInvocation inv w).Delivers inv.destination
        ((inv.request s).artifactOf inv.artifact text types ++ ['\n']) := by
  by_cases hstdout : inv.destination = "-".toList
  · have hdestination : (inv.request s).destination = .stdout := if_pos hstdout
    obtain ⟨hresult, hprinted, -⟩ := generate_stdout_of_inputs hdestination hinputs
    have hrun := run_of_generate_ok hsettings hresult
    refine .inr ⟨fun hne => absurd hstdout hne, hrun.code, ?_⟩
    rw [Exit.Delivers, if_pos hstdout, hrun.stdout]
    exact hprinted
  · have hdestination : (inv.request s).destination = .file inv.destination := if_neg hstdout
    obtain ⟨hprinted, ⟨hroom, hresult, hholds⟩ | ⟨hroom, cause, hresult⟩⟩ :=
      generate_file_cases hdestination hinputs
    · have hrun := run_of_generate_ok hsettings hresult
      refine .inr ⟨fun _ => hroom, hrun.code, ?_⟩
      rw [Exit.Delivers, if_neg hstdout, hrun.stdout, hrun.workspace]
      exact ⟨hprinted, hholds⟩
    · have hrun := run_of_generate_error hsettings hresult
      exact .inl ⟨fun hpasses => hroom (hpasses hstdout), _, hrun.failure, cause, rfl⟩

/-- With its settings at hand, a run fails at one of the later stages, or passes them and delivers
    its artifact. -/
theorem runInvocation_of_uses (huses : inv.Uses w s) (hsettings : inv.settings w = .ok s) :
    (∃ stage, inv.FirstBroken w stage ∧ inv.FailsAt w stage (runInvocation inv w)) ∨
    (∀ stage, inv.Passes w stage) ∧ (runInvocation inv w).code = 0 ∧
      ∃ out, inv.Yields w out ∧ (runInvocation inv w).Delivers inv.destination out := by
  -- The stages of the settings are passed; the inputs are read in order, and then written is what
  -- they make.
  obtain ⟨hfile, htext⟩ := huses.passes
  rcases (inv.request s).inputs_cases inv.artifact w with
    ⟨cause, hread⟩ | ⟨text, cause, ha, hholds, hread⟩ | ⟨text, types, hinputs⟩
  · obtain ⟨hresult, -, -⟩ := generate_of_no_interface inv.artifact hread
    have hbroken : ¬ inv.Passes w .interface := by
      rintro ⟨text, hholds⟩
      exact hholds.readText_ne_error hread
    have hrun := run_of_generate_error hsettings hresult
    exact .inl ⟨.interface, ⟨hbroken, by simp [Stage.earlier, hfile, htext]⟩, _, hrun.failure,
      cause, rfl⟩
  · obtain ⟨hresult, -, -⟩ := generate_of_no_types hholds hread
    rw [← ha] at hresult
    have hinterface : inv.Passes w .interface := ⟨text, hholds⟩
    have hbroken : ¬ inv.Passes w .types := by
      intro hpasses
      obtain ⟨types, htypes⟩ := hpasses ha
      exact htypes.readText_ne_error hread
    have hrun := run_of_generate_error hsettings hresult
    exact .inl ⟨.types, ⟨hbroken, by simp [Stage.earlier, hfile, htext, hinterface]⟩, _,
      hrun.failure, cause, rfl⟩
  · have hinterface : inv.Passes w .interface := ⟨text, hinputs.interface⟩
    have htypes : inv.Passes w .types := fun ha => ⟨types, hinputs.types_ffi ha⟩
    rcases runInvocation_of_inputs hsettings hinputs with
      ⟨hbroken, hfails⟩ | ⟨hpasses, hcode, hdelivers⟩
    · exact .inl ⟨.destination,
        ⟨hbroken, by simp [Stage.earlier, hfile, htext, hinterface, htypes]⟩, hfails⟩
    · refine .inr ⟨fun stage => ?_, hcode, _, ⟨s, text, types, huses, hinputs, rfl⟩, hdelivers⟩
      cases stage with
      | settingsFile => exact hfile
      | settingsText => exact htext
      | interface => exact hinterface
      | types => exact htypes
      | destination => exact hpasses

/-- A run fails at its first broken stage, or it passes all stages and delivers its artifact. -/
theorem runInvocation_cases (inv : Invocation) (w : Workspace) :
    (∃ stage, inv.FirstBroken w stage ∧ inv.FailsAt w stage (runInvocation inv w)) ∨
    (∀ stage, inv.Passes w stage) ∧ (runInvocation inv w).code = 0 ∧
      ∃ out, inv.Yields w out ∧ (runInvocation inv w).Delivers inv.destination out := by
  rcases inv.settings_cases w with
    ⟨path, cause, hchosen, hread, hsettings⟩ |
    ⟨path, text, cause, hchosen, hholds, hdecode, hsettings⟩ | ⟨s, huses, hsettings⟩
  · have hbroken : ¬ inv.Passes w .settingsFile := by
      intro hpasses
      obtain ⟨text, hholds⟩ := hpasses path hchosen
      exact hholds.readText_ne_error hread
    exact .inl ⟨.settingsFile, ⟨hbroken, by simp [Stage.earlier]⟩, _,
      (run_of_no_settings hsettings).failure, path, cause, hchosen, rfl⟩
  · have hfile : inv.Passes w .settingsFile := by
      intro path' hpath'
      obtain rfl := hchosen.unique hpath'
      exact ⟨text, hholds⟩
    have hbroken : ¬ inv.Passes w .settingsText := by
      intro hpasses
      obtain ⟨s, hs⟩ := hpasses path text hchosen hholds
      rw [hdecode] at hs
      exact absurd hs (by simp)
    exact .inl ⟨.settingsText, ⟨hbroken, by simp [Stage.earlier, hfile]⟩, _,
      (run_of_no_settings hsettings).failure, path, cause, hchosen, rfl⟩
  · exact runInvocation_of_uses huses hsettings

/-- A run fails at a stage exactly if that is the first broken one. -/
theorem failsAt_runInvocation_iff {stage : Stage} :
    inv.FailsAt w stage (runInvocation inv w) ↔ inv.FirstBroken w stage := by
  rcases runInvocation_cases inv w with ⟨broken, hbroken, hfails⟩ | ⟨hpasses, hcode, -⟩
  · constructor
    · intro hfails'
      obtain rfl := hfails.unique hfails'
      exact hbroken
    · intro hbroken'
      obtain rfl := hbroken.unique hbroken'
      exact hfails
  · constructor
    · exact fun hfails => absurd hcode hfails.code_ne_zero
    · exact fun hbroken => absurd (hpasses stage) hbroken.1

/-- A run succeeds exactly if all its stages can be passed. -/
theorem code_runInvocation_eq_zero_iff :
    (runInvocation inv w).code = 0 ↔ ∀ stage, inv.Passes w stage := by
  rcases runInvocation_cases inv w with ⟨broken, hbroken, hfails⟩ | ⟨hpasses, hcode, -⟩
  · constructor
    · exact fun hcode => absurd hcode hfails.code_ne_zero
    · exact fun hpasses => absurd (hpasses broken) hbroken.1
  · exact ⟨fun _ => hpasses, fun _ => hcode⟩

end Stages

end CommandLine

end CInterface
