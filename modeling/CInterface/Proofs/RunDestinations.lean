import CInterface.CommandLine.Run
import CInterface.Proofs.GenerationInputs

namespace CInterface

/-!
# The command line — standard output and files

The same command line with `-` and with a file as destination.  Both runs load the same settings and
read the same inputs, so they make the same artifact, or fail for the same reason; only the write to
the file can fail by itself.

* `generate_stdout_of_inputs`, `generate_file_cases` — an artifact to either destination.
* `CommandLine.Exit.SucceedsWith`, `CommandLine.Exit.FailsWith` — how a run ends.
* `CommandLine.runInvocation_destinations` — the two runs side by side.
* `CommandLine.run_destinations_agree` — what is printed is what is written.
-/

/-! ### An artifact to either destination -/

section Destinations

variable {a : Artifact} {r : Request} {w : Workspace} {text types : Text}

/-- To standard output an artifact always gets, and no file is touched. -/
theorem generate_stdout_of_inputs (hstdout : r.destination = .stdout)
    (h : r.Inputs a w text types) :
    (generate a r w).result = .ok (r.reportOf a text types) ∧
      (generate a r w).stdout = r.artifactOf a text types ++ ['\n'] ∧
      (generate a r w).workspace = w := by
  obtain ⟨hworkspace, hprinted, hresult⟩ := generate_of_inputs h
  rw [hstdout] at hworkspace hprinted hresult
  exact ⟨hresult, hprinted, hworkspace⟩

/-- To a file an artifact gets exactly if there is room for it, or else the write fails. -/
theorem generate_file_cases {path : Text} (hfile : r.destination = .file path)
    (h : r.Inputs a w text types) :
    (generate a r w).stdout = [] ∧
      ((w.Room path ∧ w.FindsName path) ∧
          (generate a r w).result = .ok (r.reportOf a text types) ∧
          (generate a r w).workspace.Holds path (r.artifactOf a text types ++ ['\n']) ∨
        ¬ (w.Room path ∧ w.FindsName path) ∧
          ∃ cause, (generate a r w).result = .error (.write path cause)) := by
  obtain ⟨-, hprinted, hresult⟩ := generate_of_inputs h
  rw [hfile] at hprinted hresult
  refine ⟨hprinted.trans stdout_writeArtifact_file, ?_⟩
  -- Whether the write succeeds is told by the room at the end of the path.
  cases hwrite : (writeArtifact w (.file path) (r.artifactOf a text types)).result with
  | error e =>
    obtain ⟨cause, rfl, -⟩ := writeArtifact_file_error_iff.1 hwrite
    refine .inr ⟨fun hroom => ?_, cause, by rw [hresult, hwrite]; rfl⟩
    rw [writeArtifact_file_eq_ok_iff.2 hroom] at hwrite
    exact absurd hwrite (by simp)
  | ok _ =>
    obtain ⟨hroom, hname⟩ := writeArtifact_file_eq_ok_iff.1 hwrite
    obtain ⟨hok, tree, hworkspace, hput⟩ := generate_file_of_inputs hfile h hroom hname
    refine .inl ⟨⟨hroom, hname⟩, hok, ?_⟩
    rw [hworkspace]
    exact hroom.holds_withFile hput

end Destinations

/-- Where an artifact goes has no part in reading the inputs: either they are the same texts for every
    destination, or the generation fails for the same reason and does nothing. -/
theorem generate_destination_cases (a : Artifact) (r : Request) (w : Workspace) :
    (∃ f, ∀ d, (generate a { r with destination := d } w).result = .error f ∧
      (generate a { r with destination := d } w).workspace = w) ∨
    ∃ text types, ∀ d, { r with destination := d }.Inputs a w text types := by
  rcases r.inputs_cases a w with
    ⟨cause, hread⟩ | ⟨text, cause, rfl, htext, hread⟩ | ⟨text, types, hinputs⟩
  · refine .inl ⟨.readInterface r.interfacePath cause, fun d => ?_⟩
    have hread' : w.readText { r with destination := d }.interfacePath = .error cause := hread
    obtain ⟨hresult, hworkspace, -⟩ := generate_of_no_interface a hread'
    exact ⟨hresult, hworkspace⟩
  · refine .inl ⟨.readTypes r.typesPath cause, fun d => ?_⟩
    have htext' : w.Holds { r with destination := d }.interfacePath text := htext
    have hread' : w.readText { r with destination := d }.typesPath = .error cause := hread
    obtain ⟨hresult, hworkspace, -⟩ := generate_of_no_types htext' hread'
    exact ⟨hresult, hworkspace⟩
  · exact .inr ⟨text, types,
      fun _ => ⟨hinputs.interface, hinputs.types_ffi, hinputs.types_other⟩⟩

namespace CommandLine

/-! ### How a run ends -/

/-- The run succeeds, with this printed and this workspace left behind. -/
structure Exit.SucceedsWith (e : Exit) (printed : Text) (w : Workspace) : Prop where
  code : e.code = 0
  failure : e.failure = none
  stdout : e.stdout = printed
  workspace : e.workspace = w

/-- The run fails for this reason, with nothing printed and this workspace left behind. -/
structure Exit.FailsWith (e : Exit) (f : Failure) (w : Workspace) : Prop where
  code : e.code = 1
  failure : e.failure = some f
  stdout : e.stdout = []
  workspace : e.workspace = w

/-- The settings in effect for a run, or why there are none. -/
def Invocation.settings (inv : Invocation) (w : Workspace) : Except Failure Settings :=
  (Settings.discover w inv.configPath w.cwdText).2

section Run

variable {inv : Invocation} {w : Workspace}

/-- A run succeeds or fails as its outcome says. -/
theorem runInvocation_of_ok {report : Report} (h : (inv.run w).result = .ok report) :
    (runInvocation inv w).SucceedsWith (inv.run w).stdout (inv.run w).workspace := by
  unfold runInvocation
  dsimp only
  rw [h]
  exact ⟨rfl, rfl, rfl, rfl⟩

/-- A run that fails has printed nothing: the settings are loaded before anything is made, and a
    generation that fails prints nothing. -/
theorem stdout_run_of_error {f : Failure} (h : (inv.run w).result = .error f) :
    (inv.run w).stdout = [] := by
  cases hsettings : (Settings.discover w inv.configPath w.cwdText).2 with
  | error e => simp only [Invocation.run, hsettings]
  | ok s =>
    simp only [Invocation.run, hsettings] at h ⊢
    exact stdout_generate_of_error h

theorem runInvocation_of_error {f : Failure} (h : (inv.run w).result = .error f) :
    (runInvocation inv w).FailsWith f (inv.run w).workspace := by
  have hstdout := stdout_run_of_error h
  unfold runInvocation
  dsimp only
  rw [h]
  exact ⟨rfl, rfl, hstdout, rfl⟩

/-- A run ends with exit code 0 and no failure, or with exit code 1 and nothing printed. -/
theorem code_runInvocation (inv : Invocation) (w : Workspace) :
    (runInvocation inv w).code = 0 ∧ (runInvocation inv w).failure = none ∨
      (runInvocation inv w).code = 1 ∧ (runInvocation inv w).stdout = [] := by
  cases hresult : (inv.run w).result with
  | ok report =>
    have hrun := runInvocation_of_ok hresult
    exact .inl ⟨hrun.code, hrun.failure⟩
  | error f =>
    have hrun := runInvocation_of_error hresult
    exact .inr ⟨hrun.code, hrun.stdout⟩

/-- Without settings a run does nothing. -/
theorem run_of_no_settings {f : Failure} (h : inv.settings w = .error f) :
    (runInvocation inv w).FailsWith f w := by
  rw [Invocation.settings] at h
  have hresult : (inv.run w).result = .error f := by simp only [Invocation.run, h]
  have hworkspace : (inv.run w).workspace = w := by simp only [Invocation.run, h]
  have hfails := runInvocation_of_error hresult
  rwa [hworkspace] at hfails

section Settings

variable {s : Settings} (h : inv.settings w = .ok s)
include h

/-- With its settings a run does what the generation does. -/
theorem run_of_settings :
    (inv.run w).result = (generate inv.artifact (inv.request s) w).result ∧
      (inv.run w).stdout = (generate inv.artifact (inv.request s) w).stdout ∧
      (inv.run w).workspace = (generate inv.artifact (inv.request s) w).workspace := by
  rw [Invocation.settings] at h
  simp only [Invocation.run, h, and_self]

theorem run_of_generate_ok {report : Report}
    (hresult : (generate inv.artifact (inv.request s) w).result = .ok report) :
    (runInvocation inv w).SucceedsWith (generate inv.artifact (inv.request s) w).stdout
      (generate inv.artifact (inv.request s) w).workspace := by
  obtain ⟨hrun, hstdout, hworkspace⟩ := run_of_settings h
  rw [← hstdout, ← hworkspace]
  exact runInvocation_of_ok (hrun.trans hresult)

theorem run_of_generate_error {f : Failure}
    (hresult : (generate inv.artifact (inv.request s) w).result = .error f) :
    (runInvocation inv w).FailsWith f (generate inv.artifact (inv.request s) w).workspace := by
  obtain ⟨hrun, -, hworkspace⟩ := run_of_settings h
  rw [← hworkspace]
  exact runInvocation_of_error (hrun.trans hresult)

end Settings

end Run

/-! ### Two runs side by side -/

/-- The run to standard output and the run to a file fail for the same reason, or the first one
    prints what the second one writes unless its write fails. -/
theorem runInvocation_destinations (inv : Invocation) (w : Workspace) {path : Text}
    (hpath : path ≠ "-".toList) :
    (∃ f, (runInvocation { inv with destination := "-".toList } w).FailsWith f w ∧
      (runInvocation { inv with destination := path } w).FailsWith f w) ∨
    ∃ out, (runInvocation { inv with destination := "-".toList } w).SucceedsWith out w ∧
      ((∃ after, (runInvocation { inv with destination := path } w).SucceedsWith [] after ∧
          after.Holds path out) ∨
        ∃ cause after,
          (runInvocation { inv with destination := path } w).FailsWith (.write path cause) after) := by
  have hfile : Destination.ofText path = .file path := if_neg hpath
  cases hsettings : inv.settings w with
  | error f => exact .inl ⟨f, run_of_no_settings hsettings, run_of_no_settings hsettings⟩
  | ok s =>
    -- The settings do not depend on where the artifact goes.
    have hkept : ∀ d, { inv with destination := d }.settings w = .ok s := fun _ => hsettings
    rcases generate_destination_cases inv.artifact (inv.request s) w with
      ⟨f, hfails⟩ | ⟨text, types, hinputs⟩
    · have hrun : ∀ d, (runInvocation { inv with destination := d } w).FailsWith f w := by
        intro d
        obtain ⟨hresult, hworkspace⟩ := hfails (.ofText d)
        have hrun := run_of_generate_error (hkept d) hresult
        exact { hrun with workspace := hrun.workspace.trans hworkspace }
      exact .inl ⟨f, hrun _, hrun _⟩
    · obtain ⟨hresult, hstdout, hworkspace⟩ := generate_stdout_of_inputs rfl (hinputs .stdout)
      have hprinted := run_of_generate_ok (hkept "-".toList) hresult
      refine .inr ⟨_, ⟨hprinted.code, hprinted.failure, hprinted.stdout.trans hstdout,
        hprinted.workspace.trans hworkspace⟩, ?_⟩
      obtain ⟨hnone, ⟨-, hresult', hholds⟩ | ⟨-, cause, hresult'⟩⟩ :=
        generate_file_cases hfile (hinputs (.ofText path))
      · have hwritten := run_of_generate_ok (hkept path) hresult'
        exact .inl ⟨_, ⟨hwritten.code, hwritten.failure, hwritten.stdout.trans hnone,
          hwritten.workspace⟩, hholds⟩
      · exact .inr ⟨cause, _, run_of_generate_error (hkept path) hresult'⟩

/-- A run to standard output changes no file. -/
theorem workspace_runInvocation_stdout {inv : Invocation} (w : Workspace)
    (hstdout : inv.destination = "-".toList) : (runInvocation inv w).workspace = w := by
  -- The other run of the pair may go to any file.
  have hempty : ([] : Text) ≠ "-".toList := by decide
  have hpair := runInvocation_destinations inv w hempty
  rw [← hstdout] at hpair
  rcases hpair with ⟨f, hprinted, -⟩ | ⟨out, hprinted, -⟩
  · exact hprinted.workspace
  · exact hprinted.workspace

/-- A run to a file prints nothing. -/
theorem stdout_runInvocation_file {inv : Invocation} (w : Workspace)
    (hfile : inv.destination ≠ "-".toList) : (runInvocation inv w).stdout = [] := by
  rcases runInvocation_destinations inv w hfile with
    ⟨f, -, hwritten⟩ | ⟨out, -, ⟨after, hwritten, -⟩ | ⟨cause, after, hwritten⟩⟩
  · exact hwritten.stdout
  · exact hwritten.stdout
  · exact hwritten.stdout

/-- **Standard output and files agree.**  No run that fails prints anything, and neither does a run
    with a file as destination; a run with `-` as destination changes nothing in the workspace, so it
    makes no file of the name `-`.  Take such a run and the same one with the path of a file.  If both
    succeed, the file holds in UTF-8 exactly what the first one prints.  If only the first one
    succeeds, it is the write to the file that failed, and if the first one fails, the second one
    fails for the same reason. -/
theorem run_destinations_agree (env : Environment) (args : List Text) (w : Workspace)
    {inv : Invocation} (hparse : parse env args = .ok inv) :
    let e := run env args w
    ((e.code = 0 ∨ e.code = 1 ∧ e.stdout = []) ∧
      (inv.destination = "-".toList → e.workspace = w) ∧
      (inv.destination ≠ "-".toList → e.stdout = [])) ∧
    ∀ args' path, inv.destination = "-".toList → path ≠ "-".toList →
      parse env args' = .ok { inv with destination := path } →
      let written := run env args' w
      (e.code = 0 → written.code = 0 → written.workspace.Holds path e.stdout) ∧
      (e.code = 0 → written.code ≠ 0 → ∃ cause, written.failure = some (.write path cause)) ∧
      (e.code ≠ 0 → written.code = 1 ∧ written.failure = e.failure) := by
  have hrun : run env args w = runInvocation inv w := by rw [run, hparse]
  rw [hrun]
  refine ⟨⟨(code_runInvocation inv w).imp_left And.left, workspace_runInvocation_stdout w,
    stdout_runInvocation_file w⟩, ?_⟩
  intro args' path hstdout hpath hparse'
  have hrun' : run env args' w = runInvocation { inv with destination := path } w := by
    rw [run, hparse']
  have hpair := runInvocation_destinations inv w hpath
  rw [← hstdout] at hpair
  rw [hrun']
  rcases hpair with
    ⟨f, hprinted, hwritten⟩ | ⟨out, hprinted, ⟨after, hwritten, hholds⟩ | ⟨cause, after, hwritten⟩⟩
  · refine ⟨by simp [hprinted.code], by simp [hprinted.code], fun _ => ⟨hwritten.code, ?_⟩⟩
    exact hwritten.failure.trans hprinted.failure.symm
  · refine ⟨fun _ _ => ?_, by simp [hwritten.code], by simp [hprinted.code]⟩
    rw [hwritten.workspace, hprinted.stdout]
    exact hholds
  · exact ⟨by simp [hwritten.code], fun _ _ => ⟨cause, hwritten.failure⟩, by simp [hprinted.code]⟩

/-- A header from the same interface, printed and written into a directory that is not there yet. -/
theorem run_destinations_agree_header :
    let w : Workspace :=
      { tree := ⟨[("in.c".toList, .file (Workspace.encodeText "int QTS_A(void) \x7b\n".toList))]⟩ }
    let args (destination : Text) : List Text :=
      ["header".toList, destination, "--interface".toList, "in.c".toList]
    let printed := run {} (args "-".toList) w
    let written := run {} (args "out/api.h".toList) w
    printed.code = 0 ∧ written.code = 0 ∧ printed.workspace = w ∧ written.stdout = [] ∧
      written.workspace.Holds "out/api.h".toList printed.stdout := by
  intro w args printed written
  let inv (destination : Text) : Invocation :=
    { artifact := .header, destination := destination, interfacePath := "in.c".toList
      typesPath := defaultRequest.typesPath, exportTypes := false, asyncify := false
      verbose := false, configPath := none }
  have hparse : parse {} (args "-".toList) = .ok (inv "-".toList) := rfl
  have hparse' : parse {} (args "out/api.h".toList) = .ok (inv "out/api.h".toList) := rfl
  have hprinted : printed.code = 0 := by decide +kernel
  have hwritten : written.code = 0 := by decide +kernel
  obtain ⟨⟨-, hworkspace, -⟩, hagree⟩ := run_destinations_agree {} _ w hparse
  obtain ⟨⟨-, -, hstdout⟩, -⟩ := run_destinations_agree {} _ w hparse'
  obtain ⟨hholds, -, -⟩ := hagree _ "out/api.h".toList rfl (by decide) hparse'
  exact ⟨hprinted, hwritten, hworkspace rfl, hstdout (by decide), hholds hprinted hwritten⟩

end CommandLine

end CInterface
