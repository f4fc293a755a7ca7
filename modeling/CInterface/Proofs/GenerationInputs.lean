import CInterface.Proofs.WritablePlaces

namespace CInterface

/-!
# Generation — inputs and outcome

What a generation does is decided by the texts that its paths lead to and by whether its destination
can be written.

* `Request.Inputs` — the texts that a request reads.
* `generate_of_no_interface`, `generate_of_no_types` — without one of them it fails there.
* `generate_of_inputs` — with them the outcome is that of writing the artifact.
* `stdout_generate_of_error` — a generation that fails prints nothing.
* `generate_file_eq_ok`, `generate_file_of_inputs` — when a generation to a file succeeds, with which
  report, and what the tree is afterwards.
-/

/-! ### The inputs of a request -/

namespace Request

/-- The texts that a request reads: that of the interface file and, for the bindings only, that of
    the types file. -/
structure Inputs (r : Request) (a : Artifact) (w : Workspace) (text types : Text) : Prop where
  interface : w.Holds r.interfacePath text
  types_ffi : a = .ffi → w.Holds r.typesPath types
  types_other : a ≠ .ffi → types = []

/-- The artifact that a request makes of these texts. -/
def artifactOf (r : Request) (a : Artifact) (text types : Text) : Text :=
  r.render a (Interface.read r.readerOptions text) types

/-- The bytes that are written for the artifact. -/
def bytesOf (r : Request) (a : Artifact) (text types : Text) : ByteArray :=
  Workspace.encodeText (r.artifactOf a text types ++ ['\n'])

/-- The report on the artifact. -/
def reportOf (r : Request) (a : Artifact) (text types : Text) : Report where
  declarations := (Interface.read r.readerOptions text).declarations.length
  skipped := (Interface.read r.readerOptions text).skipped.length
  bytes := Text.utf8Length (r.artifactOf a text types)

variable {r : Request} {a : Artifact} {w : Workspace} {text types : Text}

theorem Inputs.readInterface (h : r.Inputs a w text types) :
    r.readInterface w = .ok (Interface.read r.readerOptions text) := by
  rw [Request.readInterface, Workspace.readText_eq_ok_iff.2 h.interface]

theorem Inputs.readTypes (h : r.Inputs a w text types) : r.readTypes a w = .ok types := by
  cases a with
  | symbols => rw [h.types_other (by simp)]; rfl
  | header => rw [h.types_other (by simp)]; rfl
  | ffi =>
    have hread := Workspace.readText_eq_ok_iff.2 (h.types_ffi rfl)
    simp only [Request.readTypes, hread]

end Request

/-- A path that holds no text cannot be read. -/
theorem Workspace.readText_eq_error {w : Workspace} {path : Text}
    (h : ∀ text, ¬ w.Holds path text) : ∃ cause, w.readText path = .error cause := by
  cases hread : w.readText path with
  | ok text => exact absurd (readText_eq_ok_iff.1 hread) (h text)
  | error cause => exact ⟨cause, rfl⟩

/-! ### Writing the artifact -/

/-- An artifact is written to a file exactly if there is room for it. -/
theorem writeArtifact_file_eq_ok_iff {w : Workspace} {path content : Text} :
    (writeArtifact w (.file path) content).result = .ok () ↔ w.Room path ∧ w.FindsName path :=
  writeArtifact_file_ok_iff.trans Workspace.writeFile_eq_ok_iff

/-- An artifact that cannot be written is not printed either: only a file can fail to be written. -/
theorem stdout_writeArtifact_of_error {w : Workspace} {d : Destination} {content : Text}
    {e : Failure} (h : (writeArtifact w d content).result = .error e) :
    (writeArtifact w d content).stdout = [] := by
  cases d with
  | stdout => exact absurd h (by simp [writeArtifact])
  | file path => exact stdout_writeArtifact_file

/-! ### Outcomes -/

section Outcomes

variable {a : Artifact} {r : Request} {w : Workspace} {text types : Text}

/-- Without an interface a generation fails there and does nothing. -/
theorem generate_of_no_interface (a : Artifact) {cause : FileError}
    (h : w.readText r.interfacePath = .error cause) :
    (generate a r w).result = .error (.readInterface r.interfacePath cause) ∧
      (generate a r w).workspace = w ∧ (generate a r w).stdout = [] := by
  have hinterface : r.readInterface w = .error (.readInterface r.interfacePath cause) := by
    rw [Request.readInterface, h]
  unfold generate
  rw [hinterface]
  exact ⟨rfl, rfl, rfl⟩

/-- Without type declarations the bindings fail there, and nothing is done. -/
theorem generate_of_no_types {cause : FileError} (hinterface : w.Holds r.interfacePath text)
    (h : w.readText r.typesPath = .error cause) :
    (generate .ffi r w).result = .error (.readTypes r.typesPath cause) ∧
      (generate .ffi r w).workspace = w ∧ (generate .ffi r w).stdout = [] := by
  have hinterface' : r.readInterface w = .ok (Interface.read r.readerOptions text) := by
    rw [Request.readInterface, Workspace.readText_eq_ok_iff.2 hinterface]
  have htypes : r.readTypes .ffi w = .error (.readTypes r.typesPath cause) := by
    simp only [Request.readTypes, h]
  unfold generate
  rw [hinterface']
  dsimp only
  rw [htypes]
  exact ⟨rfl, rfl, rfl⟩

/-- With its inputs at hand, a generation does what writing the artifact does. -/
theorem generate_of_inputs (h : r.Inputs a w text types) :
    (generate a r w).workspace
        = (writeArtifact w r.destination (r.artifactOf a text types)).workspace ∧
      (generate a r w).stdout
        = (writeArtifact w r.destination (r.artifactOf a text types)).stdout ∧
      (generate a r w).result
        = (writeArtifact w r.destination (r.artifactOf a text types)).result.map
            fun _ => r.reportOf a text types := by
  unfold generate
  rw [h.readInterface]
  dsimp only
  rw [h.readTypes]
  dsimp only
  rw [← Request.artifactOf]
  split
  · next e hwrite => exact ⟨rfl, rfl, by rw [hwrite]; rfl⟩
  · next hwrite => exact ⟨rfl, rfl, by rw [hwrite]; rfl⟩

/-- The inputs of a request can be read, or one of them is the first that cannot. -/
theorem Request.inputs_cases (r : Request) (a : Artifact) (w : Workspace) :
    (∃ cause, w.readText r.interfacePath = .error cause) ∨
    (∃ text cause, a = .ffi ∧ w.Holds r.interfacePath text ∧
      w.readText r.typesPath = .error cause) ∨
    ∃ text types, r.Inputs a w text types := by
  by_cases hinterface : ∃ text, w.Holds r.interfacePath text
  · obtain ⟨text, htext⟩ := hinterface
    by_cases ha : a = .ffi
    · by_cases htypes : ∃ types, w.Holds r.typesPath types
      · obtain ⟨types, htypes⟩ := htypes
        exact .inr (.inr ⟨text, types, htext, fun _ => htypes, fun hne => absurd ha hne⟩)
      · obtain ⟨cause, hread⟩ := Workspace.readText_eq_error (not_exists.1 htypes)
        exact .inr (.inl ⟨text, cause, ha, htext, hread⟩)
    · exact .inr (.inr ⟨text, [], htext, fun ha' => absurd ha' ha, fun _ => rfl⟩)
  · exact .inl (Workspace.readText_eq_error (not_exists.1 hinterface))

/-- Without its inputs a generation fails. -/
theorem exists_inputs_of_generate_eq_ok {report : Report} (h : (generate a r w).result = .ok report) :
    ∃ text types, r.Inputs a w text types := by
  rcases r.inputs_cases a w with ⟨cause, hread⟩ | ⟨text, cause, rfl, htext, hread⟩ | hinputs
  · rw [(generate_of_no_interface a hread).1] at h
    exact absurd h (by simp)
  · rw [(generate_of_no_types htext hread).1] at h
    exact absurd h (by simp)
  · exact hinputs

/-- A generation that fails prints nothing. -/
theorem stdout_generate_of_error {e : Failure} (h : (generate a r w).result = .error e) :
    (generate a r w).stdout = [] := by
  rcases r.inputs_cases a w with
    ⟨cause, hread⟩ | ⟨text, cause, rfl, htext, hread⟩ | ⟨text, types, hinputs⟩
  · exact (generate_of_no_interface a hread).2.2
  · exact (generate_of_no_types htext hread).2.2
  · obtain ⟨-, hstdout, hresult⟩ := generate_of_inputs hinputs
    rw [hstdout]
    cases hwrite : (writeArtifact w r.destination (r.artifactOf a text types)).result with
    | error f => exact stdout_writeArtifact_of_error hwrite
    | ok _ =>
      rw [h, hwrite] at hresult
      exact absurd hresult (by simp [Except.map])

end Outcomes

/-! ### Generations to a file -/

section ToFile

variable {a : Artifact} {r : Request} {w : Workspace} {path : Text}

/-- A generation to a file succeeds only if its inputs can be read and there is room for the file,
    and for a temporary one; its report is on the artifact made of the inputs. -/
theorem generate_file_eq_ok (hfile : r.destination = .file path) {report : Report}
    (h : (generate a r w).result = .ok report) :
    ∃ text types, r.Inputs a w text types ∧ (w.Room path ∧ w.FindsName path) ∧
      report = r.reportOf a text types := by
  obtain ⟨text, types, hinputs⟩ := exists_inputs_of_generate_eq_ok h
  obtain ⟨-, -, hresult⟩ := generate_of_inputs hinputs
  rw [h, hfile] at hresult
  cases hwrite : (writeArtifact w (.file path) (r.artifactOf a text types)).result with
  | error e => simp [hwrite, Except.map] at hresult
  | ok _ =>
    have hroom := writeArtifact_file_eq_ok_iff.1 hwrite
    rw [hwrite] at hresult
    exact ⟨text, types, hinputs, hroom, Except.ok.inj hresult⟩

/-- With its inputs at hand and room for the file, a generation succeeds and puts the file into the
    tree. -/
theorem generate_file_of_inputs (hfile : r.destination = .file path) {text types : Text}
    (hinputs : r.Inputs a w text types) (hroom : w.Room path) (hname : w.FindsName path) :
    (generate a r w).result = .ok (r.reportOf a text types) ∧
      ∃ tree, (generate a r w).workspace = { w with tree := tree } ∧
        w.tree.WithFile (w.way path) (w.goal path) (r.bytesOf a text types) tree := by
  obtain ⟨hworkspace, -, hresult⟩ := generate_of_inputs hinputs
  rw [hfile] at hworkspace hresult
  have hwrite : (w.writeFile path (r.bytesOf a text types)).2 = .ok () :=
    Workspace.writeFile_of_room hroom hname _
  refine ⟨?_, (w.writeFile path (r.bytesOf a text types)).1.tree, ?_,
    Workspace.withFile_writeFile hwrite⟩
  · rw [hresult, writeArtifact_file_eq_ok_iff.2 ⟨hroom, hname⟩]
    rfl
  · rw [hworkspace, workspace_writeArtifact_file]
    exact Workspace.writeFile_fst w path _

end ToFile

end CInterface
