import CInterface.Header
import CInterface.Proofs.LineKinds

namespace CInterface

/-!
# Headers — layout

A header can be taken apart into what it was written from.  Cut at its line feeds it is the lines
of its three blocks with one empty piece between neighbouring blocks, and a block without lines
takes up one empty piece itself.

* `Interface.Legible` — every line is of the kind of its block and is one line; this holds of
  every interface that was read (`Interface.legible_read`).
* `Header.splitOn_render`, `Header.lines_render` — the pieces and the lines of a header.
* `Header.render_inj` — legible interfaces with one header have the same blocks.
-/

/-- An interface whose header can be taken apart: its include lines are include lines, its typedef
    lines typedef lines, its declarations well-formed, and nothing in it holds a line feed. -/
structure Interface.Legible (i : Interface) : Prop where
  includes : ∀ line ∈ i.includes, LineShape.isInclude line = true ∧ '\n' ∉ line
  typedefs : ∀ line ∈ i.typedefs, LineShape.isTypedef line = true ∧ '\n' ∉ line
  declarations : ∀ d ∈ i.declarations, d.WellFormed ∧ '\n' ∉ d.prototype

/-- Whatever is read is legible. -/
theorem Interface.legible_read (o : ReaderOptions) (content : Text) :
    (Interface.read o content).Legible where
  includes line h := by
    obtain ⟨hmem, hkind⟩ := List.mem_filter.1 h
    exact ⟨hkind, Text.newline_not_mem_of_mem_lines hmem⟩
  typedefs line h := by
    obtain ⟨hmem, hkind⟩ := List.mem_filter.1 h
    exact ⟨hkind, Text.newline_not_mem_of_mem_lines hmem⟩
  declarations d h := by
    obtain ⟨hwf, -, hline⟩ := Interface.of_mem_declarations_read h
    exact ⟨hwf, hline⟩

namespace Header

/-! ### The pieces of a block -/

/-- The pieces that a block takes up between line feeds: its lines, or one empty piece if it has
    none. -/
def blockPieces : List Text → List Text
  | [] => [[]]
  | line :: rest => line :: rest

theorem blockPieces_ne_nil (block : List Text) : blockPieces block ≠ [] := by
  cases block <;> simp [blockPieces]

/-- A block of proper lines comes apart into its pieces. -/
theorem splitOn_block {block : List Text} (h : ∀ line ∈ block, '\n' ∉ line) :
    Text.splitOn '\n' (Text.joinWith "\n".toList block) = blockPieces block := by
  cases block with
  | nil => rfl
  | cons line rest => exact Text.splitOn_joinWith h (by simp)

/-- A list is cut at the first of its empty texts in one way only. -/
theorem append_cons_nil_inj {a b r s : List Text} (ha : [] ∉ a) (hb : [] ∉ b)
    (h : a ++ [] :: r = b ++ [] :: s) : a = b ∧ r = s := by
  -- The empty text is the separator of the list of texts here, not a line feed of one text.
  have hcut := congrArg (List.splitOn []) h
  rw [List.splitOn_append_cons_self_of_not_mem ha, List.splitOn_append_cons_self_of_not_mem hb]
    at hcut
  obtain rfl := (List.cons.inj hcut).1
  exact ⟨rfl, (List.cons.inj (List.append_cancel_left h)).2⟩

/-- The first block ends at the empty piece behind it, however many lines it has. -/
theorem blockPieces_append_inj {a b r s : List Text} (ha : [] ∉ a) (hb : [] ∉ b)
    (h : blockPieces a ++ [] :: r = blockPieces b ++ [] :: s) : a = b ∧ r = s := by
  -- A block without lines shows an empty piece first, a block with lines its first line, which is
  -- not empty; so both blocks have lines or neither has.
  cases a with
  | nil =>
    cases b with
    | nil => exact ⟨rfl, by simpa [blockPieces] using h⟩
    | cons line rest =>
      have hline : [] = line := (List.cons.inj h).1
      exact absurd (hline ▸ List.mem_cons_self) hb
  | cons line rest =>
    cases b with
    | nil =>
      have hline : line = [] := (List.cons.inj h).1
      exact absurd (hline ▸ List.mem_cons_self) ha
    | cons line' rest' => exact append_cons_nil_inj ha hb h

theorem blockPieces_inj {a b : List Text} (ha : [] ∉ a) (hb : [] ∉ b)
    (h : blockPieces a = blockPieces b) : a = b :=
  (blockPieces_append_inj ha hb (r := []) (s := []) (by rw [h])).1

/-! ### The pieces and lines of a header -/

theorem prototype_ne_nil (d : Declaration) : d.prototype ≠ [] := by
  simp [Declaration.prototype]

theorem getLast?_prototype (d : Declaration) : d.prototype.getLast? = some ';' := by
  rw [Declaration.prototype, List.getLast?_append]
  rfl

theorem render_eq (i : Interface) :
    render i = Text.joinWith "\n".toList i.includes ++ '\n' :: '\n' ::
      (Text.joinWith "\n".toList i.typedefs ++ '\n' :: '\n' ::
        Text.joinWith "\n".toList (i.declarations.map Declaration.prototype)) := by
  simp [render, blocks, Text.joinWith]

theorem includes_mem_blocks (i : Interface) : i.includes ∈ blocks i := by
  simp [blocks]

theorem typedefs_mem_blocks (i : Interface) : i.typedefs ∈ blocks i := by
  simp [blocks]

theorem prototypes_mem_blocks (i : Interface) :
    i.declarations.map Declaration.prototype ∈ blocks i := by
  simp [blocks]

/-- The lines of every block are proper lines: none is empty, and none holds a line feed. -/
theorem of_mem_blocks {i : Interface} (h : i.Legible) {block : List Text} (hblock : block ∈ blocks i)
    {line : Text} (hline : line ∈ block) : line ≠ [] ∧ '\n' ∉ line := by
  simp only [blocks, List.mem_cons, List.not_mem_nil, or_false] at hblock
  rcases hblock with rfl | rfl | rfl
  · obtain ⟨hkind, hone⟩ := h.includes line hline
    exact ⟨fun hnil => absurd (hnil ▸ hkind) (by decide), hone⟩
  · obtain ⟨hkind, hone⟩ := h.typedefs line hline
    exact ⟨fun hnil => absurd (hnil ▸ hkind) (by decide), hone⟩
  · obtain ⟨d, hd, rfl⟩ := List.mem_map.1 hline
    exact ⟨prototype_ne_nil d, (h.declarations d hd).2⟩

/-- A header is its blocks' pieces, with one empty piece between neighbouring blocks. -/
theorem splitOn_render {i : Interface} (h : i.Legible) :
    Text.splitOn '\n' (render i) = blockPieces i.includes ++ [] ::
      (blockPieces i.typedefs ++ [] ::
        blockPieces (i.declarations.map Declaration.prototype)) := by
  have hcut : ∀ a b : Text, Text.splitOn '\n' (a ++ '\n' :: '\n' :: b)
      = Text.splitOn '\n' a ++ [] :: Text.splitOn '\n' b := by
    intro a b
    rw [Text.splitOn_append_cons]
    rfl
  have hline : ∀ block ∈ blocks i, ∀ line ∈ block, '\n' ∉ line :=
    fun block hblock line hl => (of_mem_blocks h hblock hl).2
  rw [render_eq, hcut, hcut, splitOn_block (hline _ (includes_mem_blocks i)),
    splitOn_block (hline _ (typedefs_mem_blocks i)),
    splitOn_block (hline _ (prototypes_mem_blocks i))]

/-- Lines that are not empty and do not end in a carriage return stay as they are. -/
theorem linesOfPieces_blockPieces {block : List Text}
    (h : ∀ line ∈ block, line ≠ [] ∧ line.getLast? ≠ some '\r') :
    Text.linesOfPieces (blockPieces block) = block := by
  induction block with
  | nil => rfl
  | cons line rest ih =>
    obtain ⟨hne, hcr⟩ := h line (by simp)
    cases rest with
    | nil => simp [blockPieces, Text.linesOfPieces, hne]
    | cons next rest =>
      have hrest := ih fun l hl => h l (List.mem_cons_of_mem _ hl)
      rw [blockPieces] at hrest ⊢
      rw [Text.linesOfPieces_cons (by simp), Text.dropCarriageReturn_of_ne hcr, hrest]

/-- The lines of a header.  Include and typedef lines lose a carriage return at their end;
    prototypes end in `;` and lose nothing. -/
theorem lines_render {i : Interface} (h : i.Legible) :
    Text.lines (render i) =
      (blockPieces i.includes).map Text.dropCarriageReturn ++ [] ::
        ((blockPieces i.typedefs).map Text.dropCarriageReturn ++ [] ::
          i.declarations.map Declaration.prototype) := by
  have hproto : ∀ line ∈ i.declarations.map Declaration.prototype,
      line ≠ [] ∧ line.getLast? ≠ some '\r' := by
    intro line hline
    obtain ⟨d, -, rfl⟩ := List.mem_map.1 hline
    exact ⟨prototype_ne_nil d, by simp [getLast?_prototype]⟩
  have hempty : Text.dropCarriageReturn [] = [] := rfl
  rw [Text.lines, splitOn_render h, Text.linesOfPieces_append (by simp),
    Text.linesOfPieces_cons (by simp [blockPieces_ne_nil]),
    Text.linesOfPieces_append (by simp), Text.linesOfPieces_cons (blockPieces_ne_nil _),
    linesOfPieces_blockPieces hproto, hempty]

/-! ### Back to the interface -/

/-- A reader that takes each prototype for its declaration takes a list of prototypes for the list
    of declarations. -/
theorem filterMap_prototype {f : Text → Option Declaration} {ds : List Declaration}
    (h : ∀ d ∈ ds, f d.prototype = some d) : (ds.map Declaration.prototype).filterMap f = ds := by
  induction ds with
  | nil => rfl
  | cons d ds ih =>
    rw [List.map_cons, List.filterMap_cons_some (h d (by simp)),
      ih fun e he => h e (List.mem_cons_of_mem _ he)]

/-- Well-formed declarations are known by their prototypes. -/
theorem map_prototype_inj {ds es : List Declaration} (hds : ∀ d ∈ ds, d.WellFormed)
    (hes : ∀ e ∈ es, e.WellFormed)
    (h : ds.map Declaration.prototype = es.map Declaration.prototype) : ds = es := by
  have hread : ∀ d : Declaration, d.WellFormed →
      (LineShape.signature? d.prototype).map Prod.fst = some d := by
    intro d hd
    simp [LineShape.signature?_prototype hd]
  have hleft := filterMap_prototype (f := fun line => (LineShape.signature? line).map Prod.fst)
    fun d hd => hread d (hds d hd)
  have hright := filterMap_prototype (f := fun line => (LineShape.signature? line).map Prod.fst)
    fun e he => hread e (hes e he)
  rw [← hleft, h, hright]

/-- **A header determines its blocks.**  Legible interfaces with one header agree in their include
    lines, typedef lines and declarations. -/
theorem render_inj {i j : Interface} (hi : i.Legible) (hj : j.Legible)
    (h : render i = render j) :
    i.includes = j.includes ∧ i.typedefs = j.typedefs ∧ i.declarations = j.declarations := by
  have hnil : ∀ {k : Interface}, k.Legible → ∀ block ∈ blocks k, [] ∉ block :=
    fun hk block hblock hmem => (of_mem_blocks hk hblock hmem).1 rfl
  -- The blocks are cut off from front to back: each ends at the empty piece behind it.
  have hpieces := congrArg (Text.splitOn '\n') h
  rw [splitOn_render hi, splitOn_render hj] at hpieces
  obtain ⟨hincludes, hrest⟩ := blockPieces_append_inj (hnil hi _ (includes_mem_blocks i))
    (hnil hj _ (includes_mem_blocks j)) hpieces
  obtain ⟨htypedefs, hprotos⟩ := blockPieces_append_inj (hnil hi _ (typedefs_mem_blocks i))
    (hnil hj _ (typedefs_mem_blocks j)) hrest
  have hdecls := blockPieces_inj (hnil hi _ (prototypes_mem_blocks i))
    (hnil hj _ (prototypes_mem_blocks j)) hprotos
  exact ⟨hincludes, htypedefs, map_prototype_inj (fun d hd => (hi.declarations d hd).1)
    (fun d hd => (hj.declarations d hd).1) hdecls⟩

end Header

end CInterface
