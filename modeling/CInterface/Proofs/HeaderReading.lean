import CInterface.Proofs.HeaderLayout
import Mathlib.Data.Set.Basic

namespace CInterface

/-!
# Headers — reading back

A header read with prototypes as declarations gives back what it was written from, and nothing
more unless a line is of two kinds at once: a typedef line of the shape `typedef f(int);` is a
prototype to the reader, and a prototype whose return type is `typedef` is a typedef line.

* `Header.filterMap_lines_render` — what any scan by lines finds in a header.
* `Interface.reread_read` — the interface read back, field by field.
* `Interface.names_reread_eq_iff` — the names read back are the names written, exactly if each
  typedef line that reads as a prototype has the name of a declared function.
-/

namespace Header

/-! ### Scans of a header -/

/-- A scan that passes over empty lines does not see an empty block. -/
theorem filterMap_blockPieces {α : Type} {f : Text → Option α} (hf : f [] = none)
    (block : List Text) :
    ((blockPieces block).map Text.dropCarriageReturn).filterMap f
      = (block.map Text.dropCarriageReturn).filterMap f := by
  cases block with
  | nil =>
    have hempty : f (Text.dropCarriageReturn []) = none := hf
    simp [blockPieces, hempty]
  | cons line rest => rfl

/-- A scan of a header finds what it finds in the three blocks, one after the other. -/
theorem filterMap_lines_render {α : Type} {i : Interface} (h : i.Legible)
    {f : Text → Option α} (hf : f [] = none) :
    (Text.lines (render i)).filterMap f =
      (i.includes.map Text.dropCarriageReturn).filterMap f
        ++ (i.typedefs.map Text.dropCarriageReturn).filterMap f
        ++ (i.declarations.map Declaration.prototype).filterMap f := by
  rw [lines_render h, List.filterMap_append, List.filterMap_cons_none hf, List.filterMap_append,
    List.filterMap_cons_none hf, filterMap_blockPieces hf, filterMap_blockPieces hf,
    List.append_assoc]

/-- The lines of one kind in a header are those in its three blocks. -/
theorem filter_lines_render {i : Interface} (h : i.Legible) {p : Text → Bool}
    (hp : p [] = false) :
    (Text.lines (render i)).filter p =
      (i.includes.map Text.dropCarriageReturn).filter p
        ++ (i.typedefs.map Text.dropCarriageReturn).filter p
        ++ (i.declarations.map Declaration.prototype).filter p := by
  simp only [← List.filterMap_eq_filter]
  exact filterMap_lines_render h (by simp [Option.guard, hp])

end Header

/-- The same options with prototypes as declarations. -/
def ReaderOptions.withPrototypes (o : ReaderOptions) : ReaderOptions :=
  { o with prototypes := true }

namespace Interface

/-- What the reader makes of an interface's header, with prototypes as declarations. -/
def reread (o : ReaderOptions) (i : Interface) : Interface :=
  read o.withPrototypes (Header.render i)

variable {o : ReaderOptions} {i : Interface}

/-! ### The three scans of a header that is read back -/

/-- An include line is one in the header too, less its carriage return. -/
theorem Legible.isInclude_of_mem_map (h : i.Legible) :
    ∀ line ∈ i.includes.map Text.dropCarriageReturn, LineShape.isInclude line = true := by
  intro line hline
  obtain ⟨l, hl, rfl⟩ := List.mem_map.1 hline
  exact LineShape.isInclude_dropCarriageReturn (h.includes l hl).1

/-- A typedef line is one in the header too, less its carriage return. -/
theorem Legible.isTypedef_of_mem_map (h : i.Legible) :
    ∀ line ∈ i.typedefs.map Text.dropCarriageReturn, LineShape.isTypedef line = true := by
  intro line hline
  obtain ⟨l, hl, rfl⟩ := List.mem_map.1 hline
  exact LineShape.isTypedef_dropCarriageReturn (h.typedefs l hl).1

/-- The include lines come back; neither a typedef line nor a prototype is taken for one. -/
theorem includes_reread (h : i.Legible) :
    (reread o i).includes = i.includes.map Text.dropCarriageReturn := by
  have hincludes : (i.includes.map Text.dropCarriageReturn).filter LineShape.isInclude
      = i.includes.map Text.dropCarriageReturn :=
    List.filter_eq_self.2 h.isInclude_of_mem_map
  have htypedefs : (i.typedefs.map Text.dropCarriageReturn).filter LineShape.isInclude = [] := by
    refine List.filter_eq_nil_iff.2 fun line hline => ?_
    simp [LineShape.isInclude_of_isTypedef (h.isTypedef_of_mem_map line hline)]
  have hprotos : (i.declarations.map Declaration.prototype).filter LineShape.isInclude = [] := by
    refine List.filter_eq_nil_iff.2 fun line hline => ?_
    obtain ⟨d, hd, rfl⟩ := List.mem_map.1 hline
    simp [LineShape.isInclude_prototype (h.declarations d hd).1]
  show (Text.lines (Header.render i)).filter LineShape.isInclude = _
  rw [Header.filter_lines_render h (by decide), hincludes, htypedefs, hprotos, List.append_nil,
    List.append_nil]

/-- The typedef lines come back, and behind them the prototypes that are typedef lines too. -/
theorem typedefs_reread (h : i.Legible) :
    (reread o i).typedefs = i.typedefs.map Text.dropCarriageReturn
      ++ (i.declarations.map Declaration.prototype).filter LineShape.isTypedef := by
  have hincludes : (i.includes.map Text.dropCarriageReturn).filter LineShape.isTypedef = [] := by
    refine List.filter_eq_nil_iff.2 fun line hline => ?_
    simp [LineShape.isTypedef_of_isInclude (h.isInclude_of_mem_map line hline)]
  have htypedefs : (i.typedefs.map Text.dropCarriageReturn).filter LineShape.isTypedef
      = i.typedefs.map Text.dropCarriageReturn :=
    List.filter_eq_self.2 h.isTypedef_of_mem_map
  -- Nothing is said of the prototypes here: one with return type `typedef ` is a typedef line.
  show (Text.lines (Header.render i)).filter LineShape.isTypedef = _
  rw [Header.filter_lines_render h (by decide), hincludes, htypedefs, List.nil_append]

/-- The declarations come back, behind those that typedef lines are taken for. -/
theorem declarations_reread (h : i.Legible) (hexports : ∀ d ∈ i.declarations, o.exports d.name) :
    (reread o i).declarations =
      (i.typedefs.map Text.dropCarriageReturn).filterMap o.withPrototypes.declaration?
        ++ i.declarations := by
  have hincludes :
      (i.includes.map Text.dropCarriageReturn).filterMap o.withPrototypes.declaration? = [] := by
    refine List.filterMap_eq_nil_iff.2 fun line hline => ?_
    exact ReaderOptions.declaration?_of_isInclude _ (h.isInclude_of_mem_map line hline)
  have hprotos :
      (i.declarations.map Declaration.prototype).filterMap o.withPrototypes.declaration?
        = i.declarations :=
    Header.filterMap_prototype fun d hd =>
      ReaderOptions.declaration?_prototype rfl (h.declarations d hd).1 (hexports d hd)
  show (Text.lines (Header.render i)).filterMap o.withPrototypes.declaration? = _
  rw [Header.filterMap_lines_render h rfl, hincludes, hprotos, List.nil_append]

/-! ### Headers of interfaces that were read -/

/-- **Reading back a header.**  For every text, the interface read from it and the interface read
    back from its header have the same include lines, the same typedef lines and the same
    declarations, up to three things: a carriage return at the end of an include or typedef line
    is lost, a prototype that is a typedef line counts as one, and a typedef line that is a
    prototype counts as a declaration. -/
theorem reread_read (o : ReaderOptions) (content : Text) :
    (reread o (read o content)).includes
        = (read o content).includes.map Text.dropCarriageReturn ∧
      (reread o (read o content)).typedefs
        = (read o content).typedefs.map Text.dropCarriageReturn
          ++ ((read o content).declarations.map Declaration.prototype).filter
            LineShape.isTypedef ∧
      (reread o (read o content)).declarations
        = ((read o content).typedefs.map Text.dropCarriageReturn).filterMap
            o.withPrototypes.declaration?
          ++ (read o content).declarations := by
  have hlegible := legible_read o content
  have hexports : ∀ d ∈ (read o content).declarations, o.exports d.name :=
    fun d hd => (of_mem_declarations_read hd).2.1
  exact ⟨includes_reread hlegible, typedefs_reread hlegible,
    declarations_reread hlegible hexports⟩

/-- The names read back are the names written and those of typedef lines taken for prototypes. -/
theorem mem_names_reread (h : i.Legible) (hexports : ∀ d ∈ i.declarations, o.exports d.name)
    {n : Text} :
    n ∈ (reread o i).names ↔
      (∃ line ∈ i.typedefs, ∃ d,
        o.withPrototypes.declaration? (Text.dropCarriageReturn line) = some d ∧ d.name = n) ∨
      n ∈ i.names := by
  rw [names, declarations_reread h hexports, List.map_append, List.mem_append]
  simp only [List.mem_map, List.mem_filterMap]
  constructor
  · rintro (⟨d, ⟨_, ⟨line, hline, rfl⟩, hd⟩, hn⟩ | hn)
    · exact .inl ⟨line, hline, d, hd, hn⟩
    · exact .inr (List.mem_map.2 hn)
  · rintro (⟨line, hline, d, hd, hn⟩ | hn)
    · exact .inl ⟨d, ⟨_, ⟨line, hline, rfl⟩, hd⟩, hn⟩
    · exact .inr (List.mem_map.1 hn)

/-- **Names in a header that is read back.**  No declared name is lost.  The names read back are
    exactly the declared ones if and only if each typedef line that the reader takes for a
    prototype has the name of a declared function. -/
theorem names_reread_eq_iff (o : ReaderOptions) (content : Text) :
    (∀ n ∈ (read o content).names, n ∈ (reread o (read o content)).names) ∧
      ({n | n ∈ (reread o (read o content)).names} = {n | n ∈ (read o content).names} ↔
        ∀ line ∈ (read o content).typedefs, ∀ d,
          o.withPrototypes.declaration? (Text.dropCarriageReturn line) = some d →
            d.name ∈ (read o content).names) := by
  have hexports : ∀ d ∈ (read o content).declarations, o.exports d.name :=
    fun d hd => (of_mem_declarations_read hd).2.1
  have hmem := fun n : Text => mem_names_reread (legible_read o content) hexports (n := n)
  refine ⟨fun n hn => (hmem n).2 (.inr hn), ?_⟩
  constructor
  · intro heq line hline d hd
    have hback : d.name ∈ (reread o (read o content)).names :=
      (hmem d.name).2 (.inl ⟨line, hline, d, hd, rfl⟩)
    exact (Set.ext_iff.1 heq d.name).1 hback
  · intro hnames
    -- A name read back that is not declared could only come from a typedef line.
    ext n
    constructor
    · intro hn
      rcases (hmem n).1 hn with ⟨line, hline, d, hd, rfl⟩ | hn
      · exact hnames line hline d hd
      · exact hn
    · exact fun hn => (hmem n).2 (.inr hn)

/-- The typedef of a function type without a written result is read back as a declaration, though
    the text declares nothing. -/
theorem names_reread_functionTypedef :
    ¬ ∀ content symbolPrefix : Text,
      {n | n ∈ (reread { symbolPrefix := symbolPrefix, prototypes := false }
          (read { symbolPrefix := symbolPrefix, prototypes := false } content)).names}
        = {n | n ∈ (read { symbolPrefix := symbolPrefix, prototypes := false } content).names} := by
  intro h
  have hback := (Set.ext_iff.1 (h "typedef QTS_Callback(int);\n".toList "QTS_".toList)
    "QTS_Callback".toList).1 (by decide)
  exact absurd hback (by decide)

end Interface

end CInterface
