import CInterface.Proofs.ArtifactAgreement
import CInterface.Proofs.Lines

namespace CInterface

/-!
# Interfaces — inserting a line

Reading goes line by line, so the interface of two texts, one behind the other, is put together
from the interfaces of the two.  A line that is inserted adds what it is by itself, at its own
place, and moves nothing but the line numbers behind it.

* `Interface.followedBy` — one interface behind another, its line numbers moved.
* `Interface.read_append` — reading a text in two parts.
* `SymbolList.symbols_insert` — a declaration more is a symbol more, at the declaration's place.
* `Interface.read_insert_line` — what a line changes, in the interface and in each artifact.
-/

/-! ### Interfaces one behind the other -/

/-- The same near miss with `n` lines more in front of it. -/
def SkippedLine.shift (n : Nat) (s : SkippedLine) : SkippedLine :=
  { s with lineNumber := s.lineNumber + n }

/-- Lines in front of lines in front add up. -/
theorem SkippedLine.shift_comp_shift (n m : Nat) : shift n ∘ shift m = shift (n + m) := by
  funext s
  have hnumber : s.lineNumber + m + n = s.lineNumber + (n + m) := by omega
  simp only [Function.comp_apply, shift, hnumber]

/-- A line number goes through to the near miss and plays no other part. -/
theorem ReaderOptions.skipped?_add (o : ReaderOptions) (start n : Nat) (line : Text) :
    o.skipped? (start + n) line = (o.skipped? start line).map (SkippedLine.shift n) := by
  unfold ReaderOptions.skipped?
  split
  · rfl
  · split
    · rfl
    · rfl

namespace Interface

/-- An interface of `n` lines and another one behind it. -/
def followedBy (i : Interface) (n : Nat) (j : Interface) : Interface where
  includes := i.includes ++ j.includes
  typedefs := i.typedefs ++ j.typedefs
  declarations := i.declarations ++ j.declarations
  skipped := i.skipped ++ j.skipped.map (SkippedLine.shift n)

theorem skippedFrom_add (o : ReaderOptions) (start n : Nat) (lines : List Text) :
    skippedFrom o (start + n) lines = (skippedFrom o start lines).map (SkippedLine.shift n) := by
  induction lines generalizing start with
  | nil => rfl
  | cons line rest ih =>
    have hstart : start + n + 1 = start + 1 + n := by omega
    rw [skippedFrom, skippedFrom, ReaderOptions.skipped?_add, hstart, ih, List.map_append,
      Option.toList_map]

theorem skippedFrom_append (o : ReaderOptions) (start : Nat) (front behind : List Text) :
    skippedFrom o start (front ++ behind)
      = skippedFrom o start front ++ skippedFrom o (start + front.length) behind := by
  induction front generalizing start with
  | nil => rfl
  | cons line rest ih =>
    have hstart : start + 1 + rest.length = start + (rest.length + 1) := by omega
    rw [List.cons_append, skippedFrom, skippedFrom, ih, List.append_assoc, List.length_cons,
      hstart]

theorem ofLines_append (o : ReaderOptions) (front behind : List Text) :
    ofLines o (front ++ behind)
      = (ofLines o front).followedBy front.length (ofLines o behind) := by
  have hskipped : skippedFrom o 1 (front ++ behind)
      = skippedFrom o 1 front ++ (skippedFrom o 1 behind).map (SkippedLine.shift front.length) := by
    rw [skippedFrom_append, skippedFrom_add]
  unfold ofLines followedBy
  rw [List.filter_append, List.filter_append, List.filterMap_append, hskipped]

/-- Reading a text in two parts, cut at the end of a line. -/
theorem read_append (o : ReaderOptions) {before : Text} (h : Text.Terminated before)
    (after : Text) :
    read o (before ++ after)
      = (read o before).followedBy (before.count '\n') (read o after) := by
  rw [read, Text.lines_append h, ofLines_append, Text.length_lines h]
  rfl

/-- What a line is by itself. -/
theorem ofLines_singleton (o : ReaderOptions) (line : Text) :
    ofLines o [line] =
      { includes := if LineShape.isInclude line then [line] else []
        typedefs := if LineShape.isTypedef line then [line] else []
        declarations := (o.declaration? line).toList
        skipped := (o.skipped? 1 line).toList } := by
  unfold ofLines
  simp only [List.filter_cons, List.filter_nil, List.filterMap_cons, List.filterMap_nil,
    skippedFrom, List.append_nil]
  cases o.declaration? line with
  | none => rfl
  | some d => rfl

/-- Reading a text whose first line is known. -/
theorem read_line_append (o : ReaderOptions) {line : Text} (hnewline : '\n' ∉ line)
    (hreturn : line.getLast? ≠ some '\r') (after : Text) :
    read o (line ++ '\n' :: after) = (ofLines o [line]).followedBy 1 (read o after) := by
  have hlines : Text.lines (line ++ '\n' :: after) = [line] ++ Text.lines after := by
    rw [Text.lines_line_append hnewline, Text.dropCarriageReturn_of_ne hreturn]
    rfl
  rw [read, hlines, ofLines_append]
  rfl

/-- Reading a text with a known line in its middle: the line stands behind as many others as there
    are line feeds in front of it, and it counts as one more for what stands behind it. -/
theorem read_insert (o : ReaderOptions) {before line : Text} (h : Text.Terminated before)
    (hnewline : '\n' ∉ line) (hreturn : line.getLast? ≠ some '\r') (after : Text) :
    read o (before ++ line ++ '\n' :: after) =
      { includes := (read o before).includes
          ++ (if LineShape.isInclude line then [line] else []) ++ (read o after).includes
        typedefs := (read o before).typedefs
          ++ (if LineShape.isTypedef line then [line] else []) ++ (read o after).typedefs
        declarations := (read o before).declarations ++ (o.declaration? line).toList
          ++ (read o after).declarations
        skipped := (read o before).skipped ++ (o.skipped? (before.count '\n' + 1) line).toList
          ++ (read o after).skipped.map (SkippedLine.shift (before.count '\n' + 1)) } := by
  -- By itself the line has the number one; its number in the text comes from the shift.
  have hentry : (o.skipped? (before.count '\n' + 1) line).toList
      = (o.skipped? 1 line).toList.map (SkippedLine.shift (before.count '\n')) := by
    rw [Nat.add_comm, ReaderOptions.skipped?_add, Option.toList_map]
  rw [hentry, ← SkippedLine.shift_comp_shift, List.append_assoc, read_append o h,
    read_line_append o hnewline hreturn, ofLines_singleton]
  simp only [followedBy, List.map_append, List.map_map, List.append_assoc]

end Interface

/-! ### What a declaration more changes -/

/-- What is inserted behind the first part stands between the parts. -/
theorem insertIdx_length_append {α : Type} (front behind : List α) (x : α) :
    (front ++ behind).insertIdx front.length x = front ++ x :: behind := by
  induction front with
  | nil => rfl
  | cons y front ih =>
    rw [List.cons_append, List.length_cons, List.insertIdx_succ_cons, ih, List.cons_append]

section Insert

variable {i j : Interface} {d : Declaration} {front behind : List Declaration}

/-- A list with one entry per declaration gains the entry of a declaration at its place. -/
theorem map_declarations_insert {β : Type} (f : Declaration → β)
    (hi : i.declarations = front ++ behind) (hj : j.declarations = front ++ d :: behind) :
    j.declarations.map f = (i.declarations.map f).insertIdx front.length (f d) := by
  have hlength : (front.map f).length = front.length := List.length_map f
  rw [hi, hj, List.map_append, List.map_append, List.map_cons, ← hlength,
    insertIdx_length_append]

/-- The runtime functions stand behind all declarations and are not in the way. -/
theorem SymbolList.symbols_insert (s : InterfaceSettings)
    (hi : i.declarations = front ++ behind) (hj : j.declarations = front ++ d :: behind) :
    SymbolList.symbols s j
      = (SymbolList.symbols s i).insertIdx front.length (s.linkerPrefix ++ d.name) := by
  have hlength : (front.map fun e => s.linkerPrefix ++ e.name).length = front.length :=
    List.length_map _
  rw [SymbolList.symbols, SymbolList.symbols, Interface.names, Interface.names, hi, hj, ← hlength]
  simp only [List.map_append, List.map_cons, List.map_map, List.append_assoc, List.cons_append]
  exact (insertIdx_length_append _ _ _).symm

end Insert

/-! ### What a line changes -/

/-- No artifact shows the near misses. -/
theorem Artifact.render_eq_of_lists_eq (a : Artifact) {i j : Interface}
    (hincludes : i.includes = j.includes) (htypedefs : i.typedefs = j.typedefs)
    (hdecls : i.declarations = j.declarations) (s : Settings) (asyncify : Bool) (types : Text) :
    a.render i s asyncify types = a.render j s asyncify types := by
  cases a with
  | symbols => exact (Artifact.render_congr hdecls s asyncify types).1
  | header =>
    show Header.render i = Header.render j
    rw [Header.render, Header.render, Header.blocks, Header.blocks, hincludes, htypedefs, hdecls]
  | ffi => exact (Artifact.render_congr hdecls s asyncify types).2

namespace Interface

/-- **Inserting a line.**  Put a line without line feed, which does not end in a carriage return
    either, between a terminated text and any other text.  Each list of the interface is then that
    of the text in front, at most one entry for the line, and that of the text behind, where the
    near misses behind the line are numbered on.

    If the line is a declaration, the symbols, the prototypes of the header and the bindings gain
    one entry each, at the place of the declaration, and are unchanged otherwise.  If it is neither
    an include line nor a typedef line nor a declaration, all artifacts stay as they are. -/
theorem read_insert_line (o : ReaderOptions) (before line after : Text)
    (hbefore : before = [] ∨ before.getLast? = some '\n') (hnewline : '\n' ∉ line)
    (hreturn : line.getLast? ≠ some '\r') (s : Settings) (asyncify : Bool) (types : Text) :
    let front := read o before
    let behind := read o after
    let without := read o (before ++ after)
    let whole := read o (before ++ line ++ '\n' :: after)
    let k := front.declarations.length
    (whole.includes = front.includes ++ (if LineShape.isInclude line then [line] else [])
        ++ behind.includes ∧
      whole.typedefs = front.typedefs ++ (if LineShape.isTypedef line then [line] else [])
        ++ behind.typedefs ∧
      whole.declarations = front.declarations ++ (o.declaration? line).toList
        ++ behind.declarations ∧
      whole.skipped = front.skipped ++ (o.skipped? (before.count '\n' + 1) line).toList
        ++ behind.skipped.map (SkippedLine.shift (before.count '\n' + 1))) ∧
    (∀ d, o.declaration? line = some d →
      k ≤ without.declarations.length ∧
      SymbolList.symbols s.interface whole
        = (SymbolList.symbols s.interface without).insertIdx k
            (s.interface.linkerPrefix ++ d.name) ∧
      Header.blocks whole = [whole.includes, whole.typedefs,
        (without.declarations.map Declaration.prototype).insertIdx k d.prototype] ∧
      (s.ffi.style asyncify).bindings whole
        = ((s.ffi.style asyncify).bindings without).insertIdx k
            (Binding.ofDeclaration s.ffi.constAliases d)) ∧
    (LineShape.isInclude line = false → LineShape.isTypedef line = false →
      o.declaration? line = none →
      ∀ a : Artifact, a.render whole s asyncify types = a.render without s asyncify types) := by
  intro front behind without whole k
  have hwithout : without = front.followedBy (before.count '\n') behind :=
    read_append o hbefore after
  have hwhole := read_insert o hbefore hnewline hreturn after
  have hdecls : whole.declarations
      = front.declarations ++ (o.declaration? line).toList ++ behind.declarations :=
    congrArg declarations hwhole
  refine ⟨⟨congrArg includes hwhole, congrArg typedefs hwhole, hdecls, congrArg skipped hwhole⟩,
    ?_, ?_⟩
  · intro d hd
    have hi : without.declarations = front.declarations ++ behind.declarations :=
      congrArg declarations hwithout
    have hj : whole.declarations = front.declarations ++ d :: behind.declarations := by
      rw [hdecls, hd, Option.toList_some, List.append_assoc, List.singleton_append]
    refine ⟨?_, SymbolList.symbols_insert s.interface hi hj, ?_, ?_⟩
    · rw [hi, List.length_append]
      omega
    · rw [Header.blocks, map_declarations_insert Declaration.prototype hi hj]
    · exact map_declarations_insert (Binding.ofDeclaration s.ffi.constAliases) hi hj
  · intro hinclude htypedef hdecl a
    -- The line leaves no trace in the three lists that artifacts are written from, though it may
    -- be a near miss and always moves line numbers.
    have hlists : whole.includes = without.includes ∧ whole.typedefs = without.typedefs ∧
        whole.declarations = without.declarations := by
      rw [show whole = _ from hwhole, hwithout, hinclude, htypedef, hdecl]
      simp [followedBy, front, behind]
    exact a.render_eq_of_lists_eq hlists.1 hlists.2.1 hlists.2.2 s asyncify types

/-- A definition put behind another one is the second symbol, in front of a later prototype, which
    is a near miss, and of the runtime functions. -/
theorem read_insert_line_definition :
    ('\n' ∉ "int QTS_Size(char *s) \x7b".toList ∧
      "int QTS_Size(char *s) \x7b".toList.getLast? ≠ some '\r') ∧
    (read {} "void QTS_Free(void *p) \x7b\n".toList).declarations.length = 1 ∧
    SymbolList.symbols {}
        (read {} ("void QTS_Free(void *p) \x7b\n".toList ++ "int QTS_Size(char *s) \x7b".toList
          ++ '\n' :: "int QTS_Len(char *s);\n".toList))
      = (SymbolList.symbols {} (read {} ("void QTS_Free(void *p) \x7b\n".toList
            ++ "int QTS_Len(char *s);\n".toList))).insertIdx
          (read {} "void QTS_Free(void *p) \x7b\n".toList).declarations.length
          "_QTS_Size".toList := by
  refine ⟨⟨by decide, by decide⟩, by decide, ?_⟩
  have h := read_insert_line {} "void QTS_Free(void *p) \x7b\n".toList
    "int QTS_Size(char *s) \x7b".toList "int QTS_Len(char *s);\n".toList
    (.inr rfl) (by decide) (by decide) {} false []
  exact (h.2.1 _ rfl).2.1

end Interface

end CInterface
