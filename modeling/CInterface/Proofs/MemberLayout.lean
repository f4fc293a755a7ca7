import CInterface.BindingModule
import CInterface.Proofs.HeaderLayout

namespace CInterface

/-!
# Binding modules — layout of the members

A class member takes up two lines, whatever C text its types are made of: one that begins with
two spaces and the function's name, and one that begins with four spaces.  So the names can be
read back from the members' text.

* `Text.mem_of_mem_trim`, `ValueType.mem_of_mem_squeeze` and their like — cutting and squeezing a
  text bring in no new character.
* `Binding.newline_not_mem_typeText` — a member's type is on one line, if the declaration and the
  values of the alias table are.
* `ModuleStyle.namesOfText_members` — the names at the beginnings of the members' lines are those
  of the interface, in order.
* `ModuleStyle.render_eq` — a rendered module has no whitespace at either end to trim.
-/

namespace Text

/-! ### Characters of a part -/

theorem mem_of_mem_dropEndWhile {p : Char → Bool} {t : Text} {c : Char}
    (h : c ∈ dropEndWhile p t) : c ∈ t :=
  (List.rdropWhile_prefix p t).subset h

theorem mem_of_mem_takeEndWhile {p : Char → Bool} {t : Text} {c : Char}
    (h : c ∈ takeEndWhile p t) : c ∈ t :=
  (List.rtakeWhile_suffix p t).subset h

theorem mem_of_mem_trim {t : Text} {c : Char} (h : c ∈ trim t) : c ∈ t :=
  (List.dropWhile_sublist isWhitespace).subset (mem_of_mem_dropEndWhile h)

theorem mem_of_mem_splitOn {sep : Char} {t p : Text} (hp : p ∈ splitOn sep t) {c : Char}
    (h : c ∈ p) : c ∈ t := by
  induction t generalizing p with
  | nil =>
    obtain rfl : p = [] := by simpa [splitOn] using hp
    exact h
  | cons d t ih =>
    by_cases hd : d = sep
    · subst hd
      rw [splitOn_cons_self] at hp
      rcases List.mem_cons.1 hp with rfl | hp
      · exact absurd h (by simp)
      · exact List.mem_cons_of_mem _ (ih hp h)
    · obtain ⟨piece, pieces, hpieces, hcons⟩ := splitOn_cons_of_ne hd t
      rw [hcons] at hp
      rw [hpieces] at ih
      rcases List.mem_cons.1 hp with rfl | hp
      · rcases List.mem_cons.1 h with rfl | h
        · exact List.mem_cons_self
        · exact List.mem_cons_of_mem _ (ih List.mem_cons_self h)
      · exact List.mem_cons_of_mem _ (ih (List.mem_cons_of_mem _ hp) h)

theorem mem_joinWith {sep : Text} {parts : List Text} {c : Char} (h : c ∈ joinWith sep parts) :
    c ∈ sep ∨ ∃ p ∈ parts, c ∈ p := by
  cases parts with
  | nil => exact absurd h (by simp [joinWith])
  | cons p parts =>
    rw [joinWith_cons, List.mem_append, List.mem_flatMap] at h
    rcases h with h | ⟨q, hq, h⟩
    · exact .inr ⟨p, by simp, h⟩
    · rcases List.mem_append.1 h with h | h
      · exact .inl h
      · exact .inr ⟨q, List.mem_cons_of_mem _ hq, h⟩

theorem newline_not_mem_decimal (n : Nat) : '\n' ∉ decimal n := by
  intro h
  have hdigit : ('\n').isDigit = true := Nat.isDigit_of_mem_toDigits (by decide) (by decide) h
  exact absurd hdigit (by decide)

/-- A text with no whitespace at either end stays as it is. -/
theorem trim_eq_self {t : Text} (hhead : ∀ c, t.head? = some c → isWhitespace c = false)
    (hlast : ∀ c, t.getLast? = some c → isWhitespace c = false) : trim t = t := by
  have hstart : trimStart t = t := by
    cases t with
    | nil => rfl
    | cons c t => simp [trimStart, hhead c rfl]
  have hend := dropEndWhile_append (b := []) hlast (by simp)
  rw [List.append_nil] at hend
  rw [trim, hstart, trimEnd, hend]

end Text

/-! ### Types on one line -/

namespace ValueType

theorem mem_of_mem_keepWord {word : Text} {c : Char} (h : c ∈ keepWord word) : c ∈ word := by
  rw [keepWord] at h
  split at h
  · exact absurd h (by simp)
  · exact h

theorem mem_of_mem_squeezeParts {t : Text} {c : Char}
    (h : c ∈ (squeezeParts t).1 ∨ c ∈ (squeezeParts t).2) : c ∈ t := by
  induction t with
  | nil => simp [squeezeParts] at h
  | cons d t ih =>
    -- A word character goes to the word at the end that is still open; another one closes it.
    rw [squeezeParts] at h
    dsimp only at h
    split at h
    · rcases h with h | h
      · rcases List.mem_cons.1 h with rfl | h
        · exact List.mem_cons_self
        · exact List.mem_cons_of_mem _ (ih (.inl h))
      · exact List.mem_cons_of_mem _ (ih (.inr h))
    · simp only [List.not_mem_nil, List.mem_append, false_or] at h
      rcases h with (h | h) | h
      · have hd : c = d := by
          rw [keepOther] at h
          split at h
          · exact absurd h (by simp)
          · simpa using h
        exact hd ▸ List.mem_cons_self
      · exact List.mem_cons_of_mem _ (ih (.inl (mem_of_mem_keepWord h)))
      · exact List.mem_cons_of_mem _ (ih (.inr h))

theorem mem_of_mem_squeeze {t : Text} {c : Char} (h : c ∈ squeeze t) : c ∈ t := by
  rcases List.mem_append.1 h with h | h
  · exact mem_of_mem_squeezeParts (.inl (mem_of_mem_keepWord h))
  · exact mem_of_mem_squeezeParts (.inr h)

theorem newline_not_mem_spellStars {t : Text} (h : '\n' ∉ t) : '\n' ∉ spellStars t := by
  intro hmem
  obtain ⟨c, hc, hmem⟩ := List.mem_flatMap.1 hmem
  split at hmem
  · exact absurd hmem (by decide)
  · obtain rfl : '\n' = c := by simpa using hmem
    exact h hc

theorem newline_not_mem_target {t : Text} (h : '\n' ∉ t) : '\n' ∉ (mapType t).target := by
  have hsqueeze : '\n' ∉ squeeze t := fun hmem => h (mem_of_mem_squeeze hmem)
  show '\n' ∉ (classify (squeeze t)).2
  rw [classify]
  split_ifs
  · show '\n' ∉ "string".toList
    decide
  · show '\n' ∉ "boolean".toList
    decide
  · show '\n' ∉ "void".toList
    decide
  · show '\n' ∉ "number".toList
    decide
  · exact newline_not_mem_spellStars hsqueeze

end ValueType

theorem Parameter.newline_not_mem_ofEntry {entry : Text} (h : '\n' ∉ entry) (index : Nat) :
    '\n' ∉ (Parameter.ofEntry index entry).name ∧ '\n' ∉ (Parameter.ofEntry index entry).type := by
  have htrim : '\n' ∉ Text.trim entry := fun hmem => h (Text.mem_of_mem_trim hmem)
  rw [Parameter.ofEntry]
  split
  · refine ⟨?_, htrim⟩
    exact List.not_mem_append (by decide) (Text.newline_not_mem_decimal index)
  · exact ⟨fun hmem => htrim (Text.mem_of_mem_takeEndWhile hmem),
      fun hmem => htrim (Text.mem_of_mem_dropEndWhile (Text.mem_of_mem_trim hmem))⟩

/-- Names and types of the parameters are cut out of the parameter list. -/
theorem Declaration.newline_not_mem_parameters {d : Declaration} (h : '\n' ∉ d.parameterList)
    {p : Parameter} (hp : p ∈ d.parameters) : '\n' ∉ p.name ∧ '\n' ∉ p.type := by
  obtain ⟨index, hindex, rfl⟩ := List.mem_mapIdx.1 hp
  refine Parameter.newline_not_mem_ofEntry ?_ index
  have hentry : d.entries[index] ∈ d.entries := List.getElem_mem hindex
  generalize d.entries[index] = entry at hentry
  rw [Declaration.entries] at hentry
  split at hentry
  · exact absurd hentry (by simp)
  · exact fun hmem => h (Text.mem_of_mem_trim (Text.mem_of_mem_splitOn hentry hmem))

namespace AliasTable

/-- The values of the table hold no line feed. -/
def OneLine (aliases : AliasTable) : Prop :=
  ∀ e ∈ aliases.entries, '\n' ∉ e.2

end AliasTable

namespace Binding

variable {aliases : AliasTable}

/-- Widening puts a value of the table in front of a part of the type, and the type behind it. -/
theorem newline_not_mem_widen (haliases : aliases.OneLine) {target : Text} (h : '\n' ∉ target) :
    '\n' ∉ widen aliases target := by
  rw [widen]
  split
  · next wider hfind =>
    obtain ⟨e, he, hwider⟩ := List.exists_of_findSome?_eq_some hfind
    rw [widenedBy?] at hwider
    split at hwider
    · exact absurd hwider (by simp)
    · next rest hdrop =>
      split at hwider
      · obtain rfl := Option.some.inj hwider
        rw [Text.dropStart?_eq_some_iff] at hdrop
        subst hdrop
        have hvalue := haliases e he
        simp only [List.mem_append, not_or] at h ⊢
        exact ⟨⟨⟨hvalue, h.2⟩, by decide⟩, h⟩
      · exact absurd hwider (by simp)
  · exact h

theorem newline_not_mem_literal (kind : CallKind) : '\n' ∉ kind.literal := by
  cases kind <;> decide

/-- A member's type is on one line. -/
theorem newline_not_mem_typeText (haliases : aliases.OneLine) {d : Declaration}
    (h : '\n' ∉ d.prototype) : '\n' ∉ (ofDeclaration aliases d).typeText := by
  simp only [Declaration.prototype, List.mem_append, List.mem_cons, not_or] at h
  obtain ⟨⟨⟨hreturn, -⟩, -, hlist⟩, -⟩ := h
  have hparams : '\n' ∉ Text.joinWith ", ".toList
      ((ofDeclaration aliases d).parameters.map fun p => p.name ++ ": ".toList ++ p.target) := by
    intro hmem
    rcases Text.mem_joinWith hmem with hsep | ⟨part, hpart, hmem⟩
    · exact absurd hsep (by decide)
    · obtain ⟨b, hb, rfl⟩ := List.mem_map.1 hpart
      obtain ⟨p, hp, rfl⟩ := List.mem_map.1 hb
      obtain ⟨hname, htype⟩ := Declaration.newline_not_mem_parameters hlist hp
      have htarget := newline_not_mem_widen haliases (ValueType.newline_not_mem_target htype)
      simp only [List.mem_append] at hmem
      rcases hmem with (hmem | hmem) | hmem
      · exact hname hmem
      · exact absurd hmem (by decide)
      · exact htarget hmem
  have hresult : '\n' ∉ (ofDeclaration aliases d).result.target :=
    ValueType.newline_not_mem_target fun hmem => hreturn (Text.mem_of_mem_trim hmem)
  unfold typeText
  exact List.not_mem_append (List.not_mem_append (List.not_mem_cons_of_ne_of_not_mem (by decide)
    hparams) (by decide)) hresult

/-- A member's value is on one line. -/
theorem newline_not_mem_callText {d : Declaration} (h : '\n' ∉ d.prototype) :
    '\n' ∉ (ofDeclaration aliases d).callText := by
  simp only [Declaration.prototype, List.mem_append, List.mem_cons, not_or] at h
  obtain ⟨⟨⟨-, hname⟩, -⟩, -⟩ := h
  have hkinds : '\n' ∉ Text.joinWith ",".toList
      ((ofDeclaration aliases d).parameters.map (·.mapping.kind.literal)) := by
    intro hmem
    rcases Text.mem_joinWith hmem with hsep | ⟨part, hpart, hmem⟩
    · exact absurd hsep (by decide)
    · obtain ⟨b, -, rfl⟩ := List.mem_map.1 hpart
      exact newline_not_mem_literal _ hmem
  have hresult := newline_not_mem_literal (ofDeclaration aliases d).result.kind
  have hcallee : '\n' ∉ "this.module.cwrap(\"".toList ++ (ofDeclaration aliases d).name :=
    List.not_mem_append (by decide) hname
  unfold callText
  exact List.not_mem_append (List.not_mem_append (List.not_mem_append (List.not_mem_append
    (List.not_mem_append hcallee (by decide)) hresult) (by decide)) hkinds) (by decide)

/-! ### The two lines of a member -/

/-- The first line of a member: the name and the type. -/
def heading (b : Binding) : Text :=
  "  ".toList ++ b.name ++ ": ".toList ++ b.typeText ++ " =".toList

/-- The second line of a member: the value. -/
def call (b : Binding) : Text :=
  "    ".toList ++ b.callText

theorem member_eq (b : Binding) : b.member = b.heading ++ '\n' :: b.call := by
  unfold member heading call
  simp

theorem newline_not_mem_heading (haliases : aliases.OneLine) {d : Declaration}
    (h : '\n' ∉ d.prototype) : '\n' ∉ (ofDeclaration aliases d).heading := by
  have htype := newline_not_mem_typeText haliases h
  simp only [Declaration.prototype, List.mem_append, not_or] at h
  have hname : '\n' ∉ (ofDeclaration aliases d).name := h.1.1.2
  unfold heading
  exact List.not_mem_append (List.not_mem_append (List.not_mem_append
    (List.not_mem_append (by decide) hname) (by decide)) htype) (by decide)

theorem newline_not_mem_call {d : Declaration} (h : '\n' ∉ d.prototype) :
    '\n' ∉ (ofDeclaration aliases d).call :=
  List.not_mem_append (by decide) (newline_not_mem_callText h)

/-- The name at the beginning of a member's line: the word behind two spaces. -/
def nameOfLine? : Text → Option Text
  | ' ' :: ' ' :: rest =>
    if (rest.takeWhile Text.isWord).isEmpty then none else some (rest.takeWhile Text.isWord)
  | _ => none

/-- The first line of a member shows its name. -/
theorem nameOfLine?_heading {d : Declaration} (h : d.WellFormed) :
    nameOfLine? (ofDeclaration aliases d).heading = some d.name := by
  have hline : (ofDeclaration aliases d).heading = ' ' :: ' ' ::
      (d.name ++ ':' :: (' ' :: ((ofDeclaration aliases d).typeText ++ " =".toList))) := by
    unfold heading
    simp [ofDeclaration]
  have hcolon : Text.isWord ':' = false := rfl
  have htake : ∀ rest, (d.name ++ ':' :: rest).takeWhile Text.isWord = d.name := by
    intro rest
    rw [List.takeWhile_append_of_pos h.isWord_of_mem_name]
    simp [hcolon]
  rw [hline, nameOfLine?, htake]
  simp [h.name_ne_nil]

/-- The second line of a member shows no name. -/
theorem nameOfLine?_call (b : Binding) : nameOfLine? b.call = none :=
  rfl

/-- The names at the beginnings of the lines of a text. -/
def namesOfText (t : Text) : List Text :=
  (Text.splitOn '\n' t).filterMap nameOfLine?

theorem namesOfText_append_cons (a b : Text) :
    namesOfText (a ++ '\n' :: b) = namesOfText a ++ namesOfText b := by
  rw [namesOfText, Text.splitOn_append_cons, List.filterMap_append, namesOfText, namesOfText]

theorem namesOfText_line {t : Text} (h : '\n' ∉ t) : namesOfText t = (nameOfLine? t).toList := by
  rw [namesOfText, Text.splitOn_of_not_mem h]
  cases hname : nameOfLine? t <;> simp [hname]

/-- A member shows its name and no other. -/
theorem namesOfText_member (haliases : aliases.OneLine) {d : Declaration} (hd : d.WellFormed)
    (hline : '\n' ∉ d.prototype) : namesOfText (ofDeclaration aliases d).member = [d.name] := by
  rw [member_eq, namesOfText_append_cons, namesOfText_line (newline_not_mem_heading haliases hline),
    namesOfText_line (newline_not_mem_call hline), nameOfLine?_heading hd, nameOfLine?_call]
  rfl

/-- The empty lines between texts show no name. -/
theorem namesOfText_joinWith (texts : List Text) :
    namesOfText (Text.joinWith "\n\n".toList texts) = texts.flatMap namesOfText := by
  cases texts with
  | nil => rfl
  | cons text texts =>
    rw [Text.joinWith_cons, List.flatMap_cons]
    induction texts generalizing text with
    | nil => simp
    | cons next texts ih =>
      -- Between the two line feeds stands an empty line of its own.
      have hcut : text ++ (next :: texts).flatMap ("\n\n".toList ++ ·)
          = text ++ '\n' :: ([] ++ '\n' :: (next ++ texts.flatMap ("\n\n".toList ++ ·))) := by
        simp
      rw [hcut, namesOfText_append_cons, namesOfText_append_cons, ih, List.flatMap_cons]
      rfl

end Binding

namespace ModuleStyle

/-- **The members show the interface's names.**  Read off the beginnings of the members' lines,
    the names are those of the declarations, in order. -/
theorem namesOfText_members (s : ModuleStyle) (haliases : s.constAliases.OneLine) {i : Interface}
    (h : i.Legible) : Binding.namesOfText (s.members i) = i.names := by
  rw [members, Binding.namesOfText_joinWith, bindings, Interface.names, List.map_map,
    List.flatMap_map]
  have hnames : ∀ d ∈ i.declarations,
      Binding.namesOfText (Binding.ofDeclaration s.constAliases d).member = [d.name] :=
    fun d hd => Binding.namesOfText_member haliases (h.declarations d hd).1 (h.declarations d hd).2
  generalize i.declarations = ds at hnames
  induction ds with
  | nil => rfl
  | cons d ds ih =>
    have hrest := ih fun e he => hnames e (List.mem_cons_of_mem _ he)
    rw [List.flatMap_cons, hrest, List.map_cons]
    simp [hnames d (by simp)]

/-! ### The whole module -/

/-- A module begins with its banner and ends with the brace of its class, so nothing is trimmed
    off it. -/
theorem render_eq (s : ModuleStyle) (i : Interface) (types : Text) :
    s.render i types
      = s.opening ++ s.splicedTypes types ++ s.classOpening ++ s.members i ++ "\n\x7d".toList := by
  -- Whatever names and types are filled in, the first and the last character are fixed texts'.
  refine Text.trim_eq_self (fun c hc => ?_) (fun c hc => ?_)
  · have hslash : c = '/' := (Option.some.inj hc).symm
    rw [hslash]
    rfl
  · have hbrace : c = '\x7d' := by
      rw [List.getLast?_append] at hc
      exact (Option.some.inj hc).symm
    rw [hbrace]
    rfl

/-- Modules of one style around the same types are equal only if their members are. -/
theorem members_eq_of_render_eq {s : ModuleStyle} {i j : Interface} {types : Text}
    (h : s.render i types = s.render j types) : s.members i = s.members j := by
  rw [render_eq, render_eq] at h
  exact List.append_cancel_left (List.append_cancel_right h)

end ModuleStyle

end CInterface
