import CInterface.Proofs.Lines
import CInterface.Proofs.ParameterNames

namespace CInterface

/-!
# Declarations — entries of a parameter list

A parameter list is cut at its commas, and each piece is cut once more, in front of the name at its
end.  Nothing is lost on the way: the pieces make up the list, and a name with the text in front of
it makes up the piece.

* `Text.Segments` — the pieces of a text between its separators, which are determined by the text.
* `Parameter.Cut` — a text cut in front of the longest name at its end.
* `Parameter.forall_not_cut_iff` — which texts cannot be cut so.
* `Parameter.readFrom_ofEntry` — a parameter is read off the cut of its entry, or off its position.
* `Declaration.parameters_of_segments` — the parameters, segment by segment.
-/

namespace Text

/-! ### Segments -/

/-- The pieces that stand between the separators of a text. -/
structure Segments (sep : Char) (t : Text) (segments : List Text) : Prop where
  /-- There is always a first piece. -/
  ne_nil : segments ≠ []
  /-- The text is cut at every separator. -/
  sep_not_mem : ∀ segment ∈ segments, sep ∉ segment
  /-- The text is cut at separators only. -/
  joined : joinWith [sep] segments = t

theorem segments_iff {sep : Char} {t : Text} {segments : List Text} :
    Segments sep t segments ↔ segments = splitOn sep t := by
  refine ⟨fun h => ?_, ?_⟩
  · rw [← h.joined]
    exact (splitOn_joinWith h.sep_not_mem h.ne_nil).symm
  · rintro rfl
    exact ⟨splitOn_ne_nil sep t, fun segment hmem => not_mem_of_mem_splitOn hmem,
      joinWith_splitOn sep t⟩

theorem existsUnique_segments (sep : Char) (t : Text) :
    ∃! segments, Segments sep t segments :=
  ⟨splitOn sep t, segments_iff.2 rfl, fun _ h => segments_iff.1 h⟩

/-! ### Trimmed texts -/

/-- What is left of a text in front of its end begins as the text does. -/
theorem head?_dropEndWhile {p : Char → Bool} {t : Text} {c : Char}
    (h : (dropEndWhile p t).head? = some c) : t.head? = some c := by
  obtain ⟨rest, hrest⟩ := List.head?_eq_some_iff.1 h
  rw [← dropEndWhile_append_takeEndWhile p t, hrest]
  rfl

/-- A trimmed text does not begin with whitespace. -/
theorem head?_trim {t : Text} {c : Char} (h : (trim t).head? = some c) :
    isWhitespace c = false := by
  have hstart : (t.dropWhile isWhitespace).head? = some c := head?_dropEndWhile h
  have hstop := List.head?_dropWhile_not isWhitespace t
  rw [hstart] at hstop
  simpa using hstop

/-- Trimming leaves something of a text that does not begin with whitespace. -/
theorem trim_ne_nil {t : Text} {c : Char} (hhead : t.head? = some c)
    (hc : isWhitespace c = false) : trim t ≠ [] := by
  obtain ⟨rest, rfl⟩ := List.head?_eq_some_iff.1 hhead
  have hstart : trimStart (c :: rest) = c :: rest := List.dropWhile_cons_of_neg (by simp [hc])
  intro hnil
  have hend : takeEndWhile isWhitespace (c :: rest) = c :: rest := by
    have hcut := dropEndWhile_append_takeEndWhile isWhitespace (c :: rest)
    rw [trim, hstart, trimEnd] at hnil
    rwa [hnil, List.nil_append] at hcut
  have hspace : isWhitespace c = true := of_mem_takeEndWhile (hend ▸ List.mem_cons_self)
  exact absurd (hspace.symm.trans hc) (by decide)

end Text

namespace Parameter

/-! ### The cut in front of a name -/

/-- The text is cut in front of the longest name at its end, with something left on either side. -/
structure Cut (text front name : Text) : Prop where
  joined : text = front ++ name
  front_ne_nil : front ≠ []
  name_ne_nil : name ≠ []
  nameChars : ∀ c ∈ name, Text.isNameChar c = true
  longest : ∀ c, front.getLast? = some c → Text.isNameChar c = false

theorem Cut.writes {entry front name : Text} (h : Cut (Text.trim entry) front name) :
    Writes entry name :=
  ⟨front, h.joined, h.front_ne_nil, h.name_ne_nil, h.nameChars, h.longest⟩

/-- What is in front of a written name is found by cutting off the end. -/
theorem Writes.cut {entry name : Text} (h : Writes entry name) :
    Cut (Text.trim entry) (Text.dropEndWhile Text.isNameChar (Text.trim entry)) name := by
  obtain ⟨front, heq, hfront, hname, hchars, hlast⟩ := h
  have hdrop : Text.dropEndWhile Text.isNameChar (Text.trim entry) = front := by
    rw [heq]
    exact Text.dropEndWhile_append hlast hchars
  rw [hdrop]
  exact ⟨heq, hfront, hname, hchars, hlast⟩

/-- What is in front of a name is more than whitespace, for the trimmed text begins with it. -/
theorem Cut.trim_front_ne_nil {entry front name : Text} (h : Cut (Text.trim entry) front name) :
    Text.trim front ≠ [] := by
  obtain ⟨c, rest, hfront⟩ := List.exists_cons_of_ne_nil h.front_ne_nil
  have hhead : (Text.trim entry).head? = some c := by rw [h.joined, hfront]; rfl
  exact Text.trim_ne_nil (by rw [hfront]; rfl) (Text.head?_trim hhead)

/-- There is no name to cut off an empty text, a text that ends in another character, or a bare
    word. -/
theorem forall_not_cut_iff {text : Text} : (∀ front name, ¬ Cut text front name) ↔
    text = [] ∨ (∃ c, text.getLast? = some c ∧ Text.isNameChar c = false) ∨
      ∀ c ∈ text, Text.isNameChar c = true := by
  have hsplit := Text.dropEndWhile_append_takeEndWhile Text.isNameChar text
  refine ⟨fun hnone => ?_, ?_⟩
  · by_cases hname : Text.takeEndWhile Text.isNameChar text = []
    · -- No name at the end: the last character, if there is one, is in none.
      rw [hname, List.append_nil] at hsplit
      cases hlast : text.getLast? with
      | none => exact .inl (List.getLast?_eq_none_iff.1 hlast)
      | some c => exact .inr (.inl ⟨c, rfl, Text.getLast?_dropEndWhile (hsplit ▸ hlast)⟩)
    · by_cases hfront : Text.dropEndWhile Text.isNameChar text = []
      · -- Nothing in front of the name: the text is one word.
        rw [hfront, List.nil_append] at hsplit
        refine .inr (.inr fun c hc => ?_)
        rw [← hsplit] at hc
        exact Text.of_mem_takeEndWhile hc
      · exact absurd ⟨hsplit.symm, hfront, hname, fun c hc => Text.of_mem_takeEndWhile hc,
          fun c hc => Text.getLast?_dropEndWhile hc⟩ (hnone _ _)
  · intro hcases front name hcut
    obtain ⟨e, hfronte⟩ := Option.ne_none_iff_exists'.1
      (mt List.getLast?_eq_none_iff.1 hcut.front_ne_nil)
    rcases hcases with hnil | ⟨c, hlast, hc⟩ | hword
    · exact hcut.front_ne_nil (List.append_eq_nil_iff.1 (hcut.joined.symm.trans hnil)).1
    · -- The last character of the text is the last one of the name.
      have hmem : c ∈ name := by
        rw [hcut.joined, List.getLast?_append_of_ne_nil _ hcut.name_ne_nil] at hlast
        exact List.mem_of_getLast? hlast
      exact absurd ((hcut.nameChars c hmem).symm.trans hc) (by decide)
    · -- The last character in front of the name would be one of the word.
      have hmem : e ∈ text := by
        rw [hcut.joined]
        exact List.mem_append_left _ (List.mem_of_getLast? hfronte)
      exact absurd ((hword e hmem).symm.trans (hcut.longest e hfronte)) (by decide)

/-! ### What is read off an entry -/

/-- The parameter is read off a trimmed entry at a position: its name and type are the two sides of
    the cut; a text that cannot be cut is a type, and the parameter is named for the position. -/
inductive ReadFrom (index : Nat) (text : Text) : Parameter → Prop
  /-- The entry ends in a name, with a type in front of it. -/
  | named {front name : Text} (cut : Cut text front name) (type_ne_nil : Text.trim front ≠ []) :
      ReadFrom index text ⟨name, Text.trim front⟩
  /-- The entry is empty, ends in another character, or is a bare word. -/
  | unnamed (whole : ∀ front name, ¬ Cut text front name)
      (shape : text = [] ∨ (∃ c, text.getLast? = some c ∧ Text.isNameChar c = false) ∨
        ∀ c ∈ text, Text.isNameChar c = true) :
      ReadFrom index text ⟨"arg".toList ++ Text.decimal index, text⟩

theorem Writes.ofEntry_eq {entry name : Text} (h : Writes entry name) (index : Nat) :
    ofEntry index entry
      = ⟨name, Text.trim (Text.dropEndWhile Text.isNameChar (Text.trim entry))⟩ := by
  obtain ⟨rfl, hname, hfront⟩ := writes_iff.1 h
  unfold ofEntry
  apply if_neg
  simp [hname, hfront]

theorem ofEntry_of_not_writes {entry : Text} (h : ∀ name, ¬ Writes entry name) (index : Nat) :
    ofEntry index entry = ⟨positionalName index, Text.trim entry⟩ := by
  unfold ofEntry
  apply if_pos
  by_contra hguard
  have hparts : Text.takeEndWhile Text.isNameChar (Text.trim entry) ≠ [] ∧
      Text.dropEndWhile Text.isNameChar (Text.trim entry) ≠ [] := by
    simpa using hguard
  exact h _ (writes_iff.2 ⟨rfl, hparts⟩)

theorem readFrom_ofEntry (index : Nat) (entry : Text) :
    ReadFrom index (Text.trim entry) (ofEntry index entry) := by
  by_cases hwrites : ∃ name, Writes entry name
  · obtain ⟨name, hname⟩ := hwrites
    rw [hname.ofEntry_eq]
    exact .named hname.cut hname.cut.trim_front_ne_nil
  · have hnone : ∀ name, ¬ Writes entry name := not_exists.1 hwrites
    have hwhole : ∀ front name, ¬ Cut (Text.trim entry) front name :=
      fun front name hcut => hnone name hcut.writes
    rw [ofEntry_of_not_writes hnone]
    exact .unnamed hwhole (forall_not_cut_iff.1 hwhole)

end Parameter

namespace Declaration

/-! ### The parameters of a declaration -/

theorem entries_of_empty {d : Declaration} (h : Text.trim d.parameterList = [] ∨
    Text.trim d.parameterList = "void".toList) : d.entries = [] := by
  unfold entries
  apply if_pos
  rcases h with h | h
  · simp [h]
  · rw [h]
    decide

theorem entries_of_ne {d : Declaration} (hne : Text.trim d.parameterList ≠ [])
    (hvoid : Text.trim d.parameterList ≠ "void".toList) :
    d.entries = Text.splitOn ',' (Text.trim d.parameterList) := by
  unfold entries
  apply if_neg
  rw [Bool.or_eq_true_iff, List.isEmpty_iff, decide_eq_true_iff]
  exact not_or.2 ⟨hne, hvoid⟩

/-- **Parameter lists.**  A list that is blank or `void` has no parameters.  Any other list has one
    parameter for each segment between its commas, in order, and the parameter is what the trimmed
    segment is cut into: a type and a name, or a type alone. -/
theorem parameters_of_segments (d : Declaration) :
    (Text.trim d.parameterList = [] ∨ Text.trim d.parameterList = "void".toList →
      d.parameters = []) ∧
    (Text.trim d.parameterList ≠ [] → Text.trim d.parameterList ≠ "void".toList →
      (∃! segments, Text.Segments ',' (Text.trim d.parameterList) segments) ∧
      ∀ segments, Text.Segments ',' (Text.trim d.parameterList) segments →
        d.parameters.length = segments.length ∧
        ∀ (i : Nat) (segment : Text), segments[i]? = some segment →
          ∃ p, d.parameters[i]? = some p ∧ Parameter.ReadFrom i (Text.trim segment) p) := by
  refine ⟨fun hempty => ?_, fun hne hvoid => ⟨Text.existsUnique_segments _ _, ?_⟩⟩
  · show d.entries.mapIdx Parameter.ofEntry = []
    rw [entries_of_empty hempty]
    rfl
  · intro segments hsegments
    have hentries : d.entries = segments := by
      rw [entries_of_ne hne hvoid, Text.segments_iff.1 hsegments]
    refine ⟨by rw [length_parameters, hentries], fun i segment hi => ?_⟩
    refine ⟨Parameter.ofEntry i segment, ?_, Parameter.readFrom_ofEntry i segment⟩
    show (d.entries.mapIdx Parameter.ofEntry)[i]? = _
    rw [hentries, List.getElem?_mapIdx, hi]
    rfl

/-- A list with a named pointer, a pointer without a name, an empty entry and a bare word, and a
    list that says that there are no parameters. -/
theorem parameters_of_segments_mixed :
    let d : Declaration := ⟨"QTS_F".toList, "int ".toList, " JSContext *ctx, int *,, double ".toList⟩
    let segments := ["JSContext *ctx".toList, " int *".toList, [], " double".toList]
    let none : Declaration := ⟨"QTS_G".toList, "int ".toList, " void ".toList⟩
    Text.trim d.parameterList ≠ [] ∧ Text.trim d.parameterList ≠ "void".toList ∧
      Text.Segments ',' (Text.trim d.parameterList) segments ∧
      d.parameters.length = segments.length ∧
      (∃ p, d.parameters[0]? = some p ∧
        Parameter.ReadFrom 0 (Text.trim "JSContext *ctx".toList) p) ∧
      (∃ p, d.parameters[1]? = some p ∧ Parameter.ReadFrom 1 (Text.trim " int *".toList) p) ∧
      none.parameters = [] := by
  intro d segments none
  have hne : Text.trim d.parameterList ≠ [] := by decide
  have hvoid : Text.trim d.parameterList ≠ "void".toList := by decide
  have hsegments : Text.Segments ',' (Text.trim d.parameterList) segments :=
    Text.segments_iff.2 (by decide)
  obtain ⟨hlength, hread⟩ := ((parameters_of_segments d).2 hne hvoid).2 segments hsegments
  exact ⟨hne, hvoid, hsegments, hlength, hread 0 _ rfl, hread 1 _ rfl,
    (parameters_of_segments none).1 (.inr (by decide))⟩

end Declaration

end CInterface
