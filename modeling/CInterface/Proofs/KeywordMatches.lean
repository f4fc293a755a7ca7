import CInterface.Proofs.ExportedTypes

namespace CInterface.TypeExports

/-!
# Exported type declarations — the keyword as a pattern

The types of a text can also be exported by searching it from left to right for a pattern: the
whole word `type`, together with the whole word `export` and whitespace in front of it where they are
there.  What the pattern finds is replaced, and the search goes on behind it.

* `TypeExports.Match` — what the pattern finds at a place, and what is written for it.
* `TypeExports.Replaced` — the search from a place on: at the leftmost places, without overlap.
* `TypeExports.Straddled` — a place inside of an exported keyword; the search never stops at one.
* `TypeExports.replaced_iff` — the search has exactly one result, which is the text with its types
  exported.
* `TypeExports.exportTypes_inserts` — what exporting the types of a text does.
-/

/-- The keyword with the `export` in front of it. -/
def exportedKeyword (gap : Text) : Text :=
  "export".toList ++ gap ++ "type".toList

theorem exportedKeyword_eq (gap : Text) :
    exportedKeyword gap = "export".toList ++ (gap ++ "type".toList) :=
  List.append_assoc _ _ _

/-- Between these texts the keyword can stand with its `export`. -/
structure Enclosed (before gap after : Text) : Prop where
  wholeWord : WholeWord before after
  ne_nil : gap ≠ []
  whitespace : ∀ c ∈ gap, Text.isWhitespace c = true

/-- The pattern finds a text between the ones around it, and something is written for it: an exported
    keyword is kept, one without `export` gets it. -/
inductive Match : (before found after written : Text) → Prop
  | exported {before gap after : Text} : Enclosed before gap after →
      Match before (exportedKeyword gap) after (exportedKeyword gap)
  | bare {before after : Text} : WholeWord before after →
      Match before "type".toList after "export type".toList

/-- From this place on the search turns a text into another one. -/
inductive Replaced : (before rest result : Text) → Prop
  | done {before : Text} : Replaced before [] []
  | found {before text after written result : Text} : Match before text after written →
      Replaced (before ++ text) after result → Replaced before (text ++ after) (written ++ result)
  | pass {before rest result : Text} {c : Char} :
      (∀ text after written, c :: rest = text ++ after → ¬ Match before text after written) →
      Replaced (before ++ [c]) rest result → Replaced before (c :: rest) (c :: result)

theorem Match.ne_nil {before text after written : Text} (h : Match before text after written) :
    text ≠ [] := by
  cases h with
  | exported h => exact List.append_ne_nil_of_right_ne_nil _ (by decide)
  | bare h => decide

/-- The search ends on every text. -/
theorem exists_replaced (before t : Text) : ∃ result, Replaced before t result := by
  induction hn : t.length using Nat.strongRecOn generalizing before t with
  | _ n ih =>
    by_cases hmatch : ∃ text after written, t = text ++ after ∧ Match before text after written
    · obtain ⟨text, after, written, rfl, h⟩ := hmatch
      have hpos : 0 < text.length := List.length_pos_of_ne_nil h.ne_nil
      rw [List.length_append] at hn
      obtain ⟨result, hrest⟩ := ih after.length (by omega) (before ++ text) after rfl
      exact ⟨written ++ result, .found h hrest⟩
    · cases t with
      | nil => exact ⟨[], .done⟩
      | cons c t =>
        rw [List.length_cons] at hn
        obtain ⟨result, hrest⟩ := ih t.length (by omega) (before ++ [c]) t rfl
        exact ⟨c :: result, .pass (fun text after written heq h =>
          hmatch ⟨text, after, written, heq, h⟩) hrest⟩

/-! ### Places inside of an exported keyword -/

/-- The place between these texts is inside of an exported keyword. -/
def Straddled (before rest : Text) : Prop :=
  ∃ front head tail after gap, before = front ++ head ∧ rest = tail ++ after ∧ head ≠ [] ∧
    tail ≠ [] ∧ head ++ tail = exportedKeyword gap ∧ Enclosed front gap after

theorem not_straddled_nil (t : Text) : ¬ Straddled [] t := by
  rintro ⟨front, head, tail, after, gap, hnil, -, hhead, -⟩
  exact hhead (List.append_eq_nil_iff.1 hnil.symm).2

/-- One step further is inside of an exported keyword only if that begins at the step. -/
theorem Straddled.of_pass {before rest : Text} {c : Char} (h : Straddled (before ++ [c]) rest) :
    Straddled before (c :: rest) ∨ ∃ gap after, c :: rest = exportedKeyword gap ++ after ∧
      Enclosed before gap after := by
  obtain ⟨front, head, tail, after, gap, hbefore, rfl, hhead, htail, hkeyword, henclosed⟩ := h
  obtain ⟨head, d, rfl⟩ := head.eq_nil_or_concat'.resolve_left hhead
  rw [← List.append_assoc] at hbefore
  obtain ⟨rfl, hd⟩ := List.append_inj' hbefore rfl
  obtain rfl : c = d := (List.cons.inj hd).1
  by_cases hnil : head = []
  · subst hnil
    rw [List.append_nil]
    exact .inr ⟨gap, after, by rw [← hkeyword]; rfl, henclosed⟩
  · refine .inl ⟨front, head, c :: tail, after, gap, rfl, rfl, hnil, by simp, ?_, henclosed⟩
    rw [← hkeyword, List.append_assoc]
    rfl

/-- In front of a character that is in no word, an exported keyword has its first word and perhaps
    whitespace. -/
theorem exists_space_of_cut {head tail gap : Text} {c : Char} (hc : Text.isWord c = false)
    (h : head ++ c :: tail = exportedKeyword gap) :
    ∃ space, head = "export".toList ++ space ∧ space <+: gap := by
  have hword : ∀ {word : Text}, Run true word → c ∉ word :=
    fun hrun hmem => absurd (hc.symm.trans (hrun.chars c hmem)) (by decide)
  rw [exportedKeyword_eq] at h
  rcases List.append_eq_append_iff.1 h with ⟨word, hexport, heq⟩ | ⟨space, rfl, hrest⟩
  · cases word with
    | nil => exact ⟨[], by rw [hexport, List.append_nil, List.append_nil], List.nil_prefix⟩
    | cons d word =>
      -- The character would be in the word `export`.
      obtain rfl : c = d := (List.cons.inj heq).1
      have hmem : c ∈ "export".toList := hexport ▸ List.mem_append_right head List.mem_cons_self
      exact absurd hmem (hword run_export)
  · refine ⟨space, rfl, ?_⟩
    rcases List.append_eq_append_iff.1 hrest with ⟨word, rfl, htype⟩ | ⟨behind, rfl, -⟩
    · -- The character would be in the keyword.
      have hmem : c ∈ "type".toList := htype ▸ List.mem_append_right word List.mem_cons_self
      exact absurd hmem (hword run_type)
    · exact List.prefix_append _ _

/-- Behind the keyword a place is not inside of an exported one. -/
theorem not_straddled_of_getLast? {before rest : Text} (hlast : before.getLast? = some 'e')
    (hrest : BeginsIn false rest) : ¬ Straddled before rest := by
  rintro ⟨front, head, tail, after, gap, rfl, rfl, hhead, htail, hkeyword, henclosed⟩
  rw [List.getLast?_append_of_ne_nil _ hhead] at hlast
  obtain ⟨c, tail, rfl⟩ := List.exists_cons_of_ne_nil htail
  obtain ⟨space, rfl, hspace⟩ := exists_space_of_cut (hrest c rfl) hkeyword
  -- The last letter of the keyword would be that of `export`, or whitespace.
  by_cases hnil : space = []
  · subst hnil
    exact absurd hlast (by decide)
  · rw [List.getLast?_append_of_ne_nil _ hnil] at hlast
    have hblank := henclosed.whitespace 'e' (hspace.subset (List.mem_of_getLast? hlast))
    exact absurd hblank (by decide)

/-! ### The search goes by places -/

/-- What is found ends in the keyword, and so the search goes on outside of exported ones. -/
theorem Match.not_straddled {before text after written : Text}
    (h : Match before text after written) : ¬ Straddled (before ++ text) after := by
  have htype : ∀ t : Text, (t ++ "type".toList).getLast? = some 'e' :=
    fun t => List.getLast?_append_of_ne_nil t (by decide)
  cases h with
  | exported h =>
    refine not_straddled_of_getLast? ?_ h.wholeWord.2
    rw [exportedKeyword_eq, ← List.append_assoc, ← List.append_assoc]
    exact htype _
  | bare h => exact not_straddled_of_getLast? (htype before) h.2

/-- A keyword behind an exported place is part of an exported keyword. -/
theorem straddled_of_exported {before after : Text} (hexported : Exported before)
    (hafter : BeginsIn false after) : Straddled before ("type".toList ++ after) := by
  obtain ⟨front, gap, rfl, hwhole, hne, hgap⟩ := hexported
  refine ⟨front, "export".toList ++ gap, "type".toList, after, gap, ?_, rfl, ?_, by decide, rfl,
    ⟨hwhole.1, hafter⟩, hne, hgap⟩
  · rw [List.append_assoc]
  · exact List.append_ne_nil_of_left_ne_nil (by decide) _

/-- What is written for a find is what inserting gives. -/
theorem Match.insertExports_eq {before text after written : Text} (h : Match before text after written)
    (hplace : ¬ Straddled before (text ++ after)) :
    insertExports before (text ++ after)
      = written ++ insertExports (before ++ text) after := by
  cases h with
  | exported h => exact insertExports_keyword h.wholeWord.1 h.ne_nil h.whitespace h.wholeWord.2
  | bare h =>
    have hnot : ¬ Exported before := fun hexported => hplace (straddled_of_exported hexported h.2)
    rw [insertExports_run run_type h.1 h.2, if_pos ⟨rfl, hnot⟩]
    rfl

/-- The search gives the text with what is missing inserted, from each place that is not inside of an
    exported keyword. -/
theorem Replaced.eq_insertExports {before t result : Text} (h : Replaced before t result)
    (hplace : ¬ Straddled before t) : result = insertExports before t := by
  induction h with
  | done => rfl
  | found hmatch _ ih => rw [hmatch.insertExports_eq hplace, ih hmatch.not_straddled]
  | @pass before rest result c hnone _ ih =>
    have hnot : ¬ Missing before (c :: rest) := by
      rintro ⟨after, heq, hwhole, -⟩
      exact hnone _ after _ heq (.bare hwhole)
    have hnext : ¬ Straddled (before ++ [c]) rest := by
      intro hstraddled
      rcases hstraddled.of_pass with h | ⟨gap, after, heq, henclosed⟩
      · exact hplace h
      · exact hnone _ after _ heq (.exported henclosed)
    rw [insertExports, if_neg hnot, ← ih hnext]
    rfl

/-- Replacing the keyword wherever the pattern finds it, from left to right and without overlap,
    gives the text with its types exported and nothing else. -/
theorem replaced_iff {t result : Text} : Replaced [] t result ↔ result = exportTypes t := by
  have hall : ∀ {r}, Replaced [] t r → r = exportTypes t := by
    intro r h
    rw [exportTypes_eq_insertExports, h.eq_insertExports (not_straddled_nil t)]
  refine ⟨hall, ?_⟩
  rintro rfl
  obtain ⟨r, h⟩ := exists_replaced [] t
  exact hall h ▸ h

/-- **Exporting the types of a text** keeps every character and writes `export` directly in front of
    the whole words `type` that are not exported.  So all of them are exported in the result, and a
    second time changes nothing.  The search by pattern has this result on every text, and no
    other. -/
theorem exportTypes_inserts (t : Text) :
    exportTypes t = t.zipIdx.flatMap (fun place =>
      (if Missing (t.take place.2) (t.drop place.2) then "export ".toList else []) ++ [place.1]) ∧
    (∀ before after, exportTypes t = before ++ "type".toList ++ after → WholeWord before after →
      Exported before) ∧
    exportTypes (exportTypes t) = exportTypes t ∧
    ∀ result, Replaced [] t result ↔ result = exportTypes t := by
  have hfixed := insertExports_exportTypes t
  refine ⟨?_, ?_, ?_, fun _ => replaced_iff⟩
  · rw [exportTypes_eq_insertExports]
    exact insertExports_eq_flatMap [] t
  · intro before after heq hwhole
    by_contra hnot
    rw [List.append_assoc] at heq
    exact not_missing_of_insertExports hfixed heq ⟨after, rfl, hwhole, hnot⟩
  · rw [exportTypes_eq_insertExports (exportTypes t), hfixed]

/-- A keyword at the beginning of the text, and one that is exported over two spaces. -/
theorem exportTypes_inserts_mixed :
    exportTypes "type A\nexport  type B".toList = "export type A\nexport  type B".toList ∧
      Exported "export ".toList ∧ Exported "export type A\nexport  ".toList := by
  have hresult : exportTypes "type A\nexport  type B".toList
      = "export type A\nexport  type B".toList := by decide +kernel
  obtain ⟨-, hexported, -, -⟩ := exportTypes_inserts "type A\nexport  type B".toList
  refine ⟨hresult, ?_, ?_⟩
  · exact hexported _ " A\nexport  type B".toList hresult (by decide +kernel)
  · exact hexported _ " B".toList hresult (by decide +kernel)

end CInterface.TypeExports
