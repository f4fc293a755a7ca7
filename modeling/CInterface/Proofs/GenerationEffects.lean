import CInterface.Generation
import CInterface.Proofs.FileWriting

namespace CInterface

/-!
# Generation — effects on the files

What a generation leaves behind.  All inputs are read first, so a generation that fails at an
input changes nothing, and one that succeeds has rendered the inputs as they were before it, even
if it then writes over one of them.

* `Workspace.readText_of_lookup` — reading back what was encoded.
* `generate_cases` — the ways that a generation can go.
* `generate_error_keeps_files` — a generation that fails changes no file.
* `generate_ok_writes_artifact` — a generation that succeeds writes the artifact and nothing else.
-/

namespace Workspace

/-! ### Texts in files -/

theorem decodeText_encodeText (t : Text) : decodeText (encodeText t) = .ok t := by
  have hvalid : t.string.toUTF8.IsValidUTF8 := t.string.isValidUTF8
  have hstring : String.fromUTF8? t.string.toUTF8 = some t.string := by
    rw [String.fromUTF8?, dif_pos hvalid]
    rfl
  have hchars : t.string.toList = t := String.toList_ofList
  rw [decodeText, encodeText, hstring]
  show Except.ok t.string.toList = _
  rw [hchars]

/-- A line feed is one byte more. -/
theorem size_encodeText_newline (t : Text) :
    (encodeText (t ++ ['\n'])).size = Text.utf8Length t + 1 := by
  show (String.ofList (t ++ ['\n'])).utf8ByteSize = (String.ofList t).utf8ByteSize + 1
  rw [String.ofList_append, String.utf8ByteSize_append]
  rfl

/-- A text that stands in a file is read from every path that leads there. -/
theorem readText_of_lookup {w : Workspace} {path t : Text} {l : Location}
    (hlocate : w.locate path = .ok l) (hfile : w.tree.lookup l = some (.file (encodeText t))) :
    w.readText path = .ok t := by
  have hread : w.read path = .ok (encodeText t) := by
    refine bind_eq_ok_iff.2 ⟨l, hlocate, ?_⟩
    simp [hfile]
  exact bind_eq_ok_iff.2 ⟨encodeText t, hread, decodeText_encodeText t⟩

end Workspace

/-! ### Writing an artifact to a file -/

section WriteArtifact

variable {w : Workspace} {path content : Text}

theorem workspace_writeArtifact_file :
    (writeArtifact w (.file path) content).workspace
      = (w.writeFile path (Workspace.encodeText (content ++ ['\n']))).1 := by
  rw [writeArtifact]
  split
  · next hwrite => rw [hwrite]
  · next hwrite => rw [hwrite]

theorem stdout_writeArtifact_file : (writeArtifact w (.file path) content).stdout = [] := by
  rw [writeArtifact]
  split
  · rfl
  · rfl

/-- An artifact is written exactly if the file is. -/
theorem writeArtifact_file_ok_iff :
    (writeArtifact w (.file path) content).result = .ok () ↔
      (w.writeFile path (Workspace.encodeText (content ++ ['\n']))).2 = .ok () := by
  rw [writeArtifact]
  split
  · next hwrite => simp [hwrite]
  · next hwrite => simp [hwrite]

/-- What fails is the write to that file. -/
theorem writeArtifact_file_error_iff {e : Failure} :
    (writeArtifact w (.file path) content).result = .error e ↔ ∃ cause, e = .write path cause ∧
      (w.writeFile path (Workspace.encodeText (content ++ ['\n']))).2 = .error cause := by
  rw [writeArtifact]
  split
  · next hwrite => simp [hwrite]
  · next hwrite => simp [hwrite, eq_comm]

end WriteArtifact

/-! ### The ways of a generation -/

/-- The ways that a generation can go: the interface cannot be read, the type declarations cannot be
    read, the artifact cannot be written, or all is done. -/
theorem generate_cases (a : Artifact) (r : Request) (w : Workspace) :
    (∃ e, r.readInterface w = .error e ∧
      (generate a r w).result = .error e ∧ (generate a r w).workspace = w) ∨
    ∃ i, r.readInterface w = .ok i ∧
      ((∃ e, r.readTypes a w = .error e ∧
        (generate a r w).result = .error e ∧ (generate a r w).workspace = w) ∨
      ∃ types, r.readTypes a w = .ok types ∧
        (generate a r w).workspace
          = (writeArtifact w r.destination (r.render a i types)).workspace ∧
        ((∃ e, (writeArtifact w r.destination (r.render a i types)).result = .error e ∧
          (generate a r w).result = .error e) ∨
        (writeArtifact w r.destination (r.render a i types)).result = .ok () ∧
          (generate a r w).result = .ok
            { declarations := i.declarations.length
              skipped := i.skipped.length
              bytes := Text.utf8Length (r.render a i types) })) := by
  unfold generate
  split
  · next e hread => exact .inl ⟨e, hread, rfl, rfl⟩
  · next i hread =>
    refine .inr ⟨i, hread, ?_⟩
    split
    · next e htypes => exact .inl ⟨e, htypes, rfl, rfl⟩
    · next types htypes =>
      refine .inr ⟨types, htypes, ?_⟩
      simp only
      split
      · next e hwrite => exact ⟨rfl, .inl ⟨e, hwrite, rfl⟩⟩
      · next hwrite => exact ⟨rfl, .inr ⟨hwrite, rfl⟩⟩

/-- The interface that a request reads is the one in the text of its interface file. -/
theorem Request.readInterface_eq_ok {r : Request} {w : Workspace} {i : Interface}
    (h : r.readInterface w = .ok i) :
    ∃ text, w.readText r.interfacePath = .ok text ∧
      i = Interface.read { symbolPrefix := r.settings.interface.symbolPrefix } text := by
  rw [readInterface] at h
  split at h
  · exact absurd h (by simp)
  · next text htext => exact ⟨text, htext, (Except.ok.inj h).symm⟩

/-- The type declarations that a request reads are the text of its types file, for the bindings
    only. -/
theorem Request.readTypes_eq_ok {r : Request} {a : Artifact} {w : Workspace} {types : Text}
    (h : r.readTypes a w = .ok types) :
    (a = .ffi → w.readText r.typesPath = .ok types) ∧ (a ≠ .ffi → types = []) := by
  cases a with
  | symbols => exact ⟨fun ha => absurd ha (by simp), fun _ => (Except.ok.inj h).symm⟩
  | header => exact ⟨fun ha => absurd ha (by simp), fun _ => (Except.ok.inj h).symm⟩
  | ffi =>
    refine ⟨fun _ => ?_, fun ha => absurd rfl ha⟩
    rw [readTypes] at h
    split at h
    · exact absurd h (by simp)
    · next text htext => rw [htext, Except.ok.inj h]

/-! ### Failure and success -/

/-- **A failed generation damages nothing.**  If a generation fails, then at each location a file
    with some content stands afterwards exactly if the same file stood there before: no file is
    changed or removed, and none is left behind, be it temporary or incomplete.  If it fails at an
    input, the workspace is the same altogether. -/
theorem generate_error_keeps_files (a : Artifact) (r : Request) (w : Workspace) {e : Failure}
    (h : (generate a r w).result = .error e) :
    (∀ l content, (generate a r w).workspace.tree.lookup l = some (.file content) ↔
      w.tree.lookup l = some (.file content)) ∧
    (∀ path cause, e = .readInterface path cause ∨ e = .readTypes path cause →
      (generate a r w).workspace = w) := by
  rcases generate_cases a r w with ⟨e', -, -, hsame⟩ | ⟨i, -, ⟨e', -, -, hsame⟩ | ⟨types, -, hrest⟩⟩
  · rw [hsame]
    exact ⟨fun _ _ => Iff.rfl, fun _ _ _ => rfl⟩
  · rw [hsame]
    exact ⟨fun _ _ => Iff.rfl, fun _ _ _ => rfl⟩
  · obtain ⟨hworkspace, ⟨e', hwrite, hresult⟩ | ⟨-, hresult⟩⟩ := hrest
    · obtain rfl : e' = e := Except.error.inj (hresult.symm.trans h)
      cases hd : r.destination with
      | stdout => simp [hd, writeArtifact] at hwrite
      | file path =>
        rw [hd] at hwrite hworkspace
        obtain ⟨cause, rfl, hfailed⟩ := writeArtifact_file_error_iff.1 hwrite
        have hgrown := Workspace.writeFile_error hfailed
        rw [hworkspace, workspace_writeArtifact_file]
        -- What fails is the write, so the failure is not one of an input.
        exact ⟨fun l content => hgrown.lookup_file_iff, fun path' cause' he => by simp at he⟩
    · rw [hresult] at h
      exact absurd h (by simp)

/-- A generation to a directory.  The header is ready in a temporary file when the directory turns
    out to be in the way, and that file is gone afterwards. -/
theorem generate_error_keeps_files_directory :
    let w : Workspace :=
      { tree := ⟨[("in.c".toList, .file (Workspace.encodeText "int QTS_A(void) \x7b\n".toList)),
          ("out".toList, .directory [])]⟩ }
    let r : Request := { interfacePath := "in.c".toList, destination := .file "out".toList }
    (generate .header r w).result = .error (.write "out".toList .isDirectory) ∧
      ∀ l content, (generate .header r w).workspace.tree.lookup l = some (.file content) ↔
        w.tree.lookup l = some (.file content) := by
  intro w r
  have hresult : (generate .header r w).result = .error (.write "out".toList .isDirectory) := rfl
  exact ⟨hresult, (generate_error_keeps_files .header r w hresult).1⟩

/-- **A successful generation writes the artifact and nothing else.**  If a generation to a file
    succeeds, then afterwards its path leads to a file with the artifact and a line feed, rendered
    from the texts of the inputs as they were before, whether or not the path leads to one of them.
    The report counts what was read and the bytes of the artifact.  At all other locations files are
    as they were, and every directory is still there. -/
theorem generate_ok_writes_artifact (a : Artifact) (r : Request) (w : Workspace) {path : Text}
    (hfile : r.destination = .file path) {report : Report}
    (h : (generate a r w).result = .ok report) :
    ∃ text types place,
      w.readText r.interfacePath = .ok text ∧
      (a = .ffi → w.readText r.typesPath = .ok types) ∧ (a ≠ .ffi → types = []) ∧
      let i := Interface.read { symbolPrefix := r.settings.interface.symbolPrefix } text
      let artifact := a.render i r.settings r.asyncify types
      let content := Workspace.encodeText (artifact ++ ['\n'])
      let after := (generate a r w).workspace
      (after.locate path = .ok place ∧ after.tree.lookup place = some (.file content) ∧
        after.readText path = .ok (artifact ++ ['\n'])) ∧
      (report.bytes + 1 = content.size ∧ report.declarations = i.declarations.length ∧
        report.skipped = i.skipped.length) ∧
      (∀ l other, l ≠ place → (after.tree.lookup l = some (.file other) ↔
        w.tree.lookup l = some (.file other))) ∧
      ∀ l, w.tree.lookup l = some .directory → after.tree.lookup l = some .directory := by
  rcases generate_cases a r w with ⟨e, -, hresult, -⟩ |
    ⟨i, hinterface, ⟨e, -, hresult, -⟩ | ⟨types, htypes, hworkspace, hrest⟩⟩
  · rw [hresult] at h
    exact absurd h (by simp)
  · rw [hresult] at h
    exact absurd h (by simp)
  · obtain ⟨e, -, hresult⟩ | ⟨hwritten, hresult⟩ := hrest
    · rw [hresult] at h
      exact absurd h (by simp)
    · obtain rfl := Except.ok.inj (hresult.symm.trans h)
      obtain ⟨text, htext, rfl⟩ := Request.readInterface_eq_ok hinterface
      obtain ⟨htypesFfi, htypesNone⟩ := Request.readTypes_eq_ok htypes
      rw [hfile] at hwritten hworkspace
      obtain ⟨place, hlocate, hplace, hothers, hdirs⟩ :=
        Workspace.writeFile_ok (writeArtifact_file_ok_iff.1 hwritten)
      rw [hworkspace, workspace_writeArtifact_file]
      exact ⟨text, types, place, htext, htypesFfi, htypesNone,
        ⟨hlocate, hplace, Workspace.readText_of_lookup hlocate hplace⟩,
        ⟨(Workspace.size_encodeText_newline _).symm, rfl, rfl⟩, hothers, hdirs⟩

/-- A generation over its own input, by a path through a directory that does not exist before.  The
    header is that of the interface which it replaces. -/
theorem generate_ok_writes_artifact_input :
    let w : Workspace :=
      { tree := ⟨[("in.c".toList, .file (Workspace.encodeText "int QTS_A(void) \x7b\n".toList))]⟩ }
    let r : Request :=
      { interfacePath := "in.c".toList, destination := .file "new/../in.c".toList }
    (generate .header r w).result = .ok { declarations := 1, skipped := 0, bytes := 20 } ∧
      (generate .header r w).workspace.readText "new/../in.c".toList
        = .ok "\n\n\n\nint QTS_A(void);\n".toList := by
  intro w r
  have hresult : (generate .header r w).result
      = .ok { declarations := 1, skipped := 0, bytes := 20 } := rfl
  obtain ⟨text, types, place, htext, -, -, ⟨-, -, hafter⟩, -, -, -⟩ :=
    generate_ok_writes_artifact .header r w rfl hresult
  have hbefore : w.readText r.interfacePath = .ok "int QTS_A(void) \x7b\n".toList := rfl
  obtain rfl := Except.ok.inj (hbefore.symm.trans htext)
  exact ⟨hresult, hafter⟩

end CInterface
