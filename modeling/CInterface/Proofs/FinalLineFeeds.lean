import CInterface.Proofs.AliasOrder
import CInterface.Proofs.GenerationInputs
import CInterface.Proofs.MemberLayout

namespace CInterface

/-!
# Artifacts — line feeds at the end

One line feed is written behind every artifact.  A symbol list ends in its bracket, a module of
bindings in its brace and a header in the `;` of its last prototype, so that line feed is the only
one at the end.  A header without prototypes is the exception: its last block is empty but keeps its
place, and the line feeds in front of that place are at the end too.

* `EndsInExactly`, `EndsInLineFeeds` — how many line feeds a text or its bytes end in.
* `Header.endsInExactly_append_block` — what one more block does to the end of a header.
* `Artifact.endsInExactly_render` — the line feeds at the end of each artifact.
* `Outcome.Delivers` — what stands at a destination when an artifact has been written there.
* `writeArtifact_endsInLineFeeds_iff` — the bytes at the destination end in exactly one line feed,
  unless they are a header without prototypes.
-/

/-! ### Counting from the end -/

/-- The list ends in exactly `n` times `x`: what stands in front of them does not end in `x`. -/
def EndsInExactly {α : Type} (n : Nat) (x : α) (xs : List α) : Prop :=
  ∃ front, xs = front ++ List.replicate n x ∧ front.getLast? ≠ some x

section Counting

variable {α : Type} {m n : Nat} {x : α} {xs : List α}

theorem endsInExactly_zero (h : xs.getLast? ≠ some x) : EndsInExactly 0 x xs :=
  ⟨xs, by simp, h⟩

theorem EndsInExactly.append_replicate (h : EndsInExactly n x xs) (m : Nat) :
    EndsInExactly (n + m) x (xs ++ List.replicate m x) := by
  obtain ⟨front, rfl, hfront⟩ := h
  exact ⟨front, by rw [List.append_assoc, List.replicate_add], hfront⟩

theorem EndsInExactly.le (h : EndsInExactly m x xs) (h' : EndsInExactly n x xs) : n ≤ m := by
  obtain ⟨front, rfl, hfront⟩ := h
  obtain ⟨front', heq, -⟩ := h'
  by_contra hlt
  -- Of the larger number, those that the smaller one leaves over would end its front.
  obtain ⟨k, rfl⟩ : ∃ k, n = k + 1 + m := ⟨n - m - 1, by omega⟩
  rw [List.replicate_add, ← List.append_assoc] at heq
  have hends : front = front' ++ List.replicate (k + 1) x := List.append_cancel_right heq
  apply hfront
  rw [hends, List.replicate_succ', ← List.append_assoc, List.getLast?_concat]

theorem EndsInExactly.unique (h : EndsInExactly m x xs) (h' : EndsInExactly n x xs) : m = n :=
  Nat.le_antisymm (h'.le h) (h.le h')

end Counting

/-! ### Texts and their bytes -/

/-- The byte of a line feed. -/
def lineFeed : UInt8 := 10

/-- The bytes end in exactly `n` line feeds. -/
def EndsInLineFeeds (n : Nat) (content : ByteArray) : Prop :=
  EndsInExactly n lineFeed content.data.toList

namespace Text

/-- Only the bytes of a line feed end in that of a line feed. -/
theorem eq_of_getLast?_utf8EncodeChar {c : Char}
    (h : (String.utf8EncodeChar c).getLast? = some lineFeed) : c = '\n' := by
  have hten : lineFeed.toNat = 10 := rfl
  have hval : c.val.toNat = 10 := by
    unfold String.utf8EncodeChar at h
    dsimp only at h
    generalize c.val.toNat = v at h
    -- Behind the first byte of a longer code only bytes from 128 on are used.
    split_ifs at h <;>
      simp only [List.getLast?_cons_cons, List.getLast?_singleton, Option.some.injEq,
        ← UInt8.toNat_inj, UInt8.toNat_ofNat', hten] at h <;>
      omega
  exact Char.ext (UInt32.toNat_inj.1 hval)

theorem getLast?_of_getLast?_utf8Bytes {t : Text}
    (h : (utf8Bytes t).getLast? = some lineFeed) : t.getLast? = some '\n' := by
  rw [utf8Bytes_eq_flatMap] at h
  rcases t.eq_nil_or_concat' with rfl | ⟨front, c, rfl⟩
  · exact absurd h (by simp)
  · rw [List.flatMap_append, List.flatMap_singleton,
      List.getLast?_append_of_ne_nil _ String.utf8EncodeChar_ne_nil] at h
    rw [List.getLast?_concat, eq_of_getLast?_utf8EncodeChar h]

/-- Joined texts end with the last one. -/
theorem isSuffix_joinWith (sep : Text) (parts : List Text) (p : Text) :
    p <:+ joinWith sep (parts ++ [p]) := by
  cases parts with
  | nil => simp [joinWith]
  | cons q parts =>
    rw [List.cons_append, joinWith_cons, List.flatMap_append, List.flatMap_singleton,
      ← List.append_assoc, ← List.append_assoc]
    exact List.suffix_append _ p

end Text

/-- In UTF-8 a text ends in as many line feeds. -/
theorem Workspace.endsInLineFeeds_encodeText {n : Nat} {t : Text} (h : EndsInExactly n '\n' t) :
    EndsInLineFeeds n (encodeText t) := by
  obtain ⟨front, rfl, hfront⟩ := h
  refine ⟨Text.utf8Bytes front, ?_, fun hlast =>
    hfront (Text.getLast?_of_getLast?_utf8Bytes hlast)⟩
  show Text.utf8Bytes (front ++ List.replicate n '\n') = _
  have hbyte : String.utf8EncodeChar '\n' = [lineFeed] := rfl
  rw [Text.utf8Bytes_eq_flatMap, Text.utf8Bytes_eq_flatMap, List.flatMap_append,
    List.flatMap_replicate, hbyte]
  simp

/-! ### The ends of the artifacts -/

theorem SymbolList.getLast?_render (s : InterfaceSettings) (i : Interface) :
    (SymbolList.render s i).getLast? = some ']' :=
  List.getLast?_concat

theorem ModuleStyle.getLast?_render (s : ModuleStyle) (i : Interface) (types : Text) :
    (s.render i types).getLast? = some '\x7d' := by
  rw [ModuleStyle.render_eq, List.getLast?_append]
  rfl

namespace Header

section Block

variable {block : List Text} (h : ∀ line ∈ block, line ≠ [] ∧ '\n' ∉ line)
include h

/-- A block of proper lines does not end in a line feed, be it empty or not. -/
theorem getLast?_block : (Text.joinWith "\n".toList block).getLast? ≠ some '\n' := by
  rcases block.eq_nil_or_concat' with rfl | ⟨front, line, rfl⟩
  · simp [Text.joinWith]
  · obtain ⟨hne, hline⟩ := h line (by simp)
    obtain ⟨rest, hrest⟩ := Text.isSuffix_joinWith "\n".toList front line
    rw [← hrest, List.getLast?_append_of_ne_nil _ hne]
    exact fun hlast => hline (List.mem_of_getLast? hlast)

theorem block_ne_nil (hne : block ≠ []) : Text.joinWith "\n".toList block ≠ [] := by
  obtain ⟨line, rest, rfl⟩ := List.exists_cons_of_ne_nil hne
  rw [Text.joinWith_cons]
  simp [(h line (by simp)).1]

/-- One more block behind a text: its lines end the text, or there are none and the two line feeds in
    front of it do. -/
theorem endsInExactly_append_block {n : Nat} {t : Text} (ht : EndsInExactly n '\n' t) :
    EndsInExactly (if block = [] then n + 2 else 0) '\n'
      (t ++ '\n' :: '\n' :: Text.joinWith "\n".toList block) := by
  split_ifs with hempty
  · subst hempty
    exact ht.append_replicate 2
  · have hassoc : t ++ '\n' :: '\n' :: Text.joinWith "\n".toList block
        = (t ++ "\n\n".toList) ++ Text.joinWith "\n".toList block := by simp
    apply endsInExactly_zero
    rw [hassoc, List.getLast?_append_of_ne_nil _ (block_ne_nil h hempty)]
    exact getLast?_block h

end Block

/-- The line feeds that a header ends in: two for each empty block at its end.  None stand in front
    of the first block, so it does not count. -/
def finalLineFeeds (i : Interface) : Nat :=
  if i.declarations = [] then if i.typedefs = [] then 4 else 2 else 0

theorem endsInExactly_render {i : Interface} (h : i.Legible) :
    EndsInExactly (finalLineFeeds i) '\n' (render i) := by
  have hlines : ∀ block ∈ blocks i, ∀ line ∈ block, line ≠ [] ∧ '\n' ∉ line :=
    fun block hblock line hline => of_mem_blocks h hblock hline
  have hrender : render i = (Text.joinWith "\n".toList i.includes ++ '\n' :: '\n' ::
      Text.joinWith "\n".toList i.typedefs) ++ '\n' :: '\n' ::
        Text.joinWith "\n".toList (i.declarations.map Declaration.prototype) := by
    rw [render_eq]
    simp
  have hcount : finalLineFeeds i = if i.declarations.map Declaration.prototype = [] then
      (if i.typedefs = [] then 0 + 2 else 0) + 2 else 0 := by
    unfold finalLineFeeds
    simp only [List.map_eq_nil_iff]
    split_ifs <;> rfl
  -- The blocks are put on from front to back.
  have hincludes := endsInExactly_zero (getLast?_block (hlines _ (includes_mem_blocks i)))
  have htypedefs := endsInExactly_append_block (hlines _ (typedefs_mem_blocks i)) hincludes
  have hprototypes := endsInExactly_append_block (hlines _ (prototypes_mem_blocks i)) htypedefs
  rw [hrender, hcount]
  exact hprototypes

end Header

namespace Artifact

/-- The line feeds that an artifact ends in before one is written behind it. -/
def finalLineFeeds (a : Artifact) (i : Interface) : Nat :=
  match a with
  | header => Header.finalLineFeeds i
  | symbols | ffi => 0

theorem finalLineFeeds_eq_zero_iff (a : Artifact) (i : Interface) :
    a.finalLineFeeds i = 0 ↔ (a = header → i.declarations ≠ []) := by
  cases a with
  | symbols => simp [finalLineFeeds]
  | header =>
    unfold finalLineFeeds Header.finalLineFeeds
    split_ifs <;> simp_all
  | ffi => simp [finalLineFeeds]

/-- An artifact of an interface that was read ends in its own line feeds only, whatever the settings
    and type declarations are. -/
theorem endsInExactly_render (a : Artifact) {i : Interface} (h : i.Legible) (s : Settings)
    (asyncify : Bool) (types : Text) :
    EndsInExactly (a.finalLineFeeds i) '\n' (a.render i s asyncify types) := by
  cases a with
  | symbols =>
    apply endsInExactly_zero
    show (SymbolList.render s.interface i).getLast? ≠ some '\n'
    rw [SymbolList.getLast?_render]
    decide
  | header => exact Header.endsInExactly_render h
  | ffi =>
    apply endsInExactly_zero
    show ((s.ffi.style asyncify).render i types).getLast? ≠ some '\n'
    rw [ModuleStyle.getLast?_render]
    decide

end Artifact

/-! ### The bytes at the destination -/

/-- The destination can take an artifact: standard output always can, a file if there is room for it
    and for a temporary file beside it. -/
def Destination.Accepts (d : Destination) (w : Workspace) : Prop :=
  match d with
  | .stdout => True
  | .file path => w.Room path ∧ w.FindsName path

/-- What an operation leaves at a destination: the bytes that are printed, or those of the file that
    the path leads to. -/
def Outcome.Delivers {α : Type} (out : Outcome α) (d : Destination) (content : ByteArray) : Prop :=
  match d with
  | .stdout => content = Workspace.encodeText out.stdout
  | .file path => out.workspace.read path = .ok content

theorem writeArtifact_eq_ok_iff {w : Workspace} {d : Destination} {content : Text} :
    (writeArtifact w d content).result = .ok () ↔ d.Accepts w := by
  cases d with
  | stdout => exact ⟨fun _ => trivial, fun _ => rfl⟩
  | file path => exact writeArtifact_file_eq_ok_iff

/-- What is delivered is the artifact and a line feed. -/
theorem delivers_writeArtifact {w : Workspace} {d : Destination} {content : Text}
    (h : (writeArtifact w d content).result = .ok ()) :
    (writeArtifact w d content).Delivers d (Workspace.encodeText (content ++ ['\n'])) := by
  cases d with
  | stdout => rfl
  | file path =>
    obtain ⟨place, hlocate, hplace, -, -⟩ :=
      Workspace.writeFile_ok (writeArtifact_file_ok_iff.1 h)
    show (writeArtifact w (.file path) content).workspace.read path = _
    rw [workspace_writeArtifact_file]
    exact Workspace.read_eq_ok_iff.2 ⟨place, Workspace.locate_eq_ok_iff.1 hlocate, hplace⟩

/-- **An artifact ends in one line feed, a header without prototypes in more.**  Take an artifact of
    the interface of any text, read under any options, with any settings and type declarations.
    Writing it succeeds exactly if the destination accepts it, and then the bytes at the destination
    end in exactly one line feed unless they are a header and the interface has no declarations.  The
    empty block of such a header keeps its place, so the bytes end in exactly three line feeds, or in
    five if there are no typedef lines either. -/
theorem writeArtifact_endsInLineFeeds_iff (a : Artifact) (o : ReaderOptions) (content : Text)
    (s : Settings) (asyncify : Bool) (types : Text) (w : Workspace) (d : Destination) :
    let i := Interface.read o content
    let out := writeArtifact w d (a.render i s asyncify types)
    (out.result = .ok () ↔ d.Accepts w) ∧
      (out.result = .ok () → ∃ bytes, out.Delivers d bytes ∧
        (EndsInLineFeeds 1 bytes ↔ (a = .header → i.declarations ≠ [])) ∧
        (a = .header → i.declarations = [] →
          EndsInLineFeeds (if i.typedefs = [] then 5 else 3) bytes)) := by
  intro i out
  refine ⟨writeArtifact_eq_ok_iff, fun hok => ⟨_, delivers_writeArtifact hok, ?_⟩⟩
  have hrender : EndsInExactly (a.finalLineFeeds i) '\n' (a.render i s asyncify types) :=
    a.endsInExactly_render (Interface.legible_read o content) s asyncify types
  have hbytes : EndsInLineFeeds (a.finalLineFeeds i + 1)
      (Workspace.encodeText (a.render i s asyncify types ++ ['\n'])) :=
    Workspace.endsInLineFeeds_encodeText (hrender.append_replicate 1)
  refine ⟨?_, ?_⟩
  · rw [← a.finalLineFeeds_eq_zero_iff i]
    constructor
    · intro hone
      have hcount := hbytes.unique hone
      omega
    · intro hzero
      rwa [hzero] at hbytes
  · rintro rfl hnone
    have hcount : Artifact.header.finalLineFeeds i + 1 = if i.typedefs = [] then 5 else 3 := by
      show Header.finalLineFeeds i + 1 = _
      rw [Header.finalLineFeeds, if_pos hnone]
      split_ifs <;> rfl
    rwa [hcount] at hbytes

/-- Bindings and header of a text with a typedef line only, written to a file in a directory that is
    not there yet. -/
theorem writeArtifact_endsInLineFeeds_iff_typedef :
    let i := Interface.read {} "typedef int T;\n".toList
    let d : Destination := .file "out/api".toList
    let bindings := writeArtifact {} d (Artifact.ffi.render i {} false "type T = number\n\n".toList)
    let header := writeArtifact {} d (Artifact.header.render i {} false [])
    (∃ bytes, bindings.Delivers d bytes ∧ EndsInLineFeeds 1 bytes) ∧
      ∃ bytes, header.Delivers d bytes ∧ ¬ EndsInLineFeeds 1 bytes ∧ EndsInLineFeeds 3 bytes := by
  intro i d bindings header
  obtain ⟨-, hbindings⟩ := writeArtifact_endsInLineFeeds_iff .ffi {} "typedef int T;\n".toList {}
    false "type T = number\n\n".toList {} d
  obtain ⟨-, hheader⟩ := writeArtifact_endsInLineFeeds_iff .header {} "typedef int T;\n".toList {}
    false [] {} d
  obtain ⟨bytes, hdelivers, hone, -⟩ := hbindings rfl
  obtain ⟨bytes', hdelivers', hone', hthree⟩ := hheader rfl
  refine ⟨⟨bytes, hdelivers, hone.2 (by simp)⟩, bytes', hdelivers', ?_, hthree rfl rfl⟩
  exact fun h => hone'.1 h rfl rfl

/-- The header of a text with a typedef line only, printed.  It ends in three line feeds. -/
theorem writeArtifact_header_of_typedef :
    let i := Interface.read {} "typedef int T;\n".toList
    let out := writeArtifact {} .stdout (Artifact.header.render i {} false [])
    out.result = .ok () ∧ out.stdout = "\n\ntypedef int T;\n\n\n".toList ∧
      ∀ bytes, out.Delivers .stdout bytes → ¬ EndsInLineFeeds 1 bytes := by
  intro i out
  have hstdout : out.stdout = "\n\ntypedef int T;\n\n\n".toList := by decide
  refine ⟨rfl, hstdout, ?_⟩
  rintro bytes rfl hone
  rw [hstdout] at hone
  have hthree : EndsInExactly 3 '\n' "\n\ntypedef int T;\n\n\n".toList :=
    ⟨"\n\ntypedef int T;".toList, rfl, by decide⟩
  exact absurd (hone.unique (Workspace.endsInLineFeeds_encodeText hthree)) (by decide)

end CInterface
