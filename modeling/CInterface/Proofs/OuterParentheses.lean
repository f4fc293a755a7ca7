import CInterface.Proofs.LineKinds

namespace CInterface

/-!
# Interfaces — the parentheses around a parameter list

A parameter list ends at the last closing parenthesis of its line; parentheses are never counted.
That is the partner of the parenthesis behind the name only if nothing behind the partner closes a
parenthesis.

* `Text.Balanced` — the parentheses of a text belong together in pairs.
* `Text.splitAtClose?` — the partner of a parenthesis, found by counting.
* `Text.splitAtClose?_eq_some_iff` — what stands in front of the partner is balanced, and nothing
  longer or shorter is.
* `LineShape.outerList?` — the text between the first parenthesis of a line and its partner.
* `ReaderOptions.parameterList_balanced_iff` — when a parameter list is that text.
-/

namespace Text

/-! ### Balanced texts -/

/-- Each parenthesis of the text has a partner in it: as many are closed as are opened, and at no
    point more were closed than opened. -/
structure Balanced (t : Text) : Prop where
  count_eq : t.count ')' = t.count '('
  count_le_of_isPrefix : ∀ p, p <+: t → p.count ')' ≤ p.count '('

/-- Behind `depth` parentheses that are still open, the text closes these as well. -/
structure ClosesAll (depth : Nat) (t : Text) : Prop where
  count_eq : t.count ')' = t.count '(' + depth
  count_le_of_isPrefix : ∀ p, p <+: t → p.count ')' ≤ p.count '(' + depth

theorem closesAll_zero {t : Text} : ClosesAll 0 t ↔ Balanced t :=
  ⟨fun h => ⟨h.1, h.2⟩, fun h => ⟨h.1, h.2⟩⟩

theorem closesAll_nil {depth : Nat} : ClosesAll depth [] ↔ depth = 0 := by
  constructor
  · intro h
    have hcount := h.count_eq
    simpa [eq_comm] using hcount
  · rintro rfl
    refine ⟨rfl, ?_⟩
    intro p hp
    rw [List.prefix_nil.1 hp]
    simp

/-- How many parentheses are open behind a character. -/
def depthBehind (c : Char) (depth : Nat) : Nat :=
  if c = '(' then depth + 1 else if c = ')' then depth - 1 else depth

/-- A character in front of a text changes both counts as it changes the depth, unless it closes a
    parenthesis that was never opened. -/
theorem count_cons_depthBehind {c : Char} {depth : Nat} (h : ¬ (c = ')' ∧ depth = 0)) (t : Text) :
    ((c :: t).count ')' ≤ (c :: t).count '(' + depth ↔
      t.count ')' ≤ t.count '(' + depthBehind c depth) ∧
    ((c :: t).count ')' = (c :: t).count '(' + depth ↔
      t.count ')' = t.count '(' + depthBehind c depth) := by
  unfold depthBehind
  by_cases hopen : c = '('
  · subst hopen
    rw [List.count_cons_self, List.count_cons_of_ne (by decide), if_pos rfl]
    omega
  · by_cases hclose : c = ')'
    · subst hclose
      have hdepth : depth ≠ 0 := fun h0 => h ⟨rfl, h0⟩
      rw [List.count_cons_self, List.count_cons_of_ne (by decide), if_neg (by decide), if_pos rfl]
      omega
    · rw [List.count_cons_of_ne hclose, List.count_cons_of_ne hopen, if_neg hopen, if_neg hclose]
      exact ⟨Iff.rfl, Iff.rfl⟩

/-- Reading one character. -/
theorem closesAll_cons {c : Char} {depth : Nat} (h : ¬ (c = ')' ∧ depth = 0)) {t : Text} :
    ClosesAll depth (c :: t) ↔ ClosesAll (depthBehind c depth) t := by
  constructor
  · intro hclose
    refine ⟨(count_cons_depthBehind h t).2.1 hclose.count_eq, ?_⟩
    intro p hp
    have hcons : c :: p <+: c :: t := List.cons_prefix_cons.2 ⟨rfl, hp⟩
    exact (count_cons_depthBehind h p).1.1 (hclose.count_le_of_isPrefix _ hcons)
  · intro hclose
    refine ⟨(count_cons_depthBehind h t).2.2 hclose.count_eq, ?_⟩
    intro p hp
    -- The empty beginning has no parentheses; every other one begins with the character.
    rcases List.prefix_cons_iff.1 hp with rfl | ⟨q, rfl, hq⟩
    · simp
    · exact (count_cons_depthBehind h q).1.2 (hclose.count_le_of_isPrefix q hq)

/-- With nothing open a text cannot begin by closing. -/
theorem not_closesAll_zero_cons (t : Text) : ¬ ClosesAll 0 (')' :: t) := by
  intro h
  have hfirst := h.count_le_of_isPrefix [')'] (List.cons_prefix_cons.2 ⟨rfl, List.nil_prefix⟩)
  exact absurd hfirst (by decide)

/-! ### The partner of a parenthesis -/

/-- The text in front of the parenthesis that closes the outermost one of `depth + 1` open ones,
    and the text behind it. -/
def splitAtClose? : (depth : Nat) → Text → Option (Text × Text)
  | _, [] => none
  | depth, c :: t =>
    if c = ')' ∧ depth = 0 then some ([], t)
    else (splitAtClose? (depthBehind c depth) t).map fun (inner, rest) => (c :: inner, rest)

/-- Counting stops at the one parenthesis in front of which all others are closed. -/
theorem splitAtClose?_eq_some_iff {depth : Nat} {t inner rest : Text} :
    splitAtClose? depth t = some (inner, rest) ↔
      t = inner ++ ')' :: rest ∧ ClosesAll depth inner := by
  -- Each character changes the depth, so the induction on the text is for all depths at once.
  induction t generalizing depth inner with
  | nil => simp [splitAtClose?]
  | cons c t ih =>
    rw [splitAtClose?]
    by_cases hstop : c = ')' ∧ depth = 0
    · obtain ⟨rfl, rfl⟩ := hstop
      rw [if_pos ⟨rfl, rfl⟩]
      constructor
      · intro h
        obtain ⟨rfl, rfl⟩ := Prod.mk.inj (Option.some.inj h)
        exact ⟨rfl, closesAll_nil.2 rfl⟩
      · rintro ⟨heq, hclose⟩
        cases inner with
        | nil => rw [(List.cons.inj heq).2]
        | cons d inner =>
          -- A longer text would begin with the parenthesis at which counting has stopped.
          obtain rfl : ')' = d := (List.cons.inj heq).1
          exact absurd hclose (not_closesAll_zero_cons inner)
    · rw [if_neg hstop, Option.map_eq_some_iff]
      constructor
      · rintro ⟨⟨inner', rest'⟩, hsplit, heq⟩
        obtain ⟨rfl, rfl⟩ := Prod.mk.inj heq
        obtain ⟨rfl, hclose⟩ := ih.1 hsplit
        exact ⟨rfl, (closesAll_cons hstop).2 hclose⟩
      · rintro ⟨heq, hclose⟩
        cases inner with
        | nil => exact absurd ⟨(List.cons.inj heq).1, closesAll_nil.1 hclose⟩ hstop
        | cons d inner =>
          obtain ⟨rfl, rfl⟩ := List.cons.inj heq
          exact ⟨(inner, rest), ih.2 ⟨rfl, (closesAll_cons hstop).1 hclose⟩, rfl⟩

/-- What stands in front of the last closing parenthesis of a text. -/
theorem append_close_inj {a b r s : Text} (hr : ')' ∉ r) (hs : ')' ∉ s)
    (h : a ++ ')' :: r = b ++ ')' :: s) : a = b := by
  have hcut : ∀ {x y : Text}, ')' ∉ y → dropEndWhile (· != ')') (x ++ ')' :: y) = x ++ [')'] := by
    intro x y hy
    have hassoc : x ++ ')' :: y = (x ++ [')']) ++ y := by simp
    rw [hassoc]
    refine dropEndWhile_append (fun c hc => ?_) (fun c hc => ?_)
    · rw [List.getLast?_concat] at hc
      simpa using (Option.some.inj hc).symm
    · exact bne_iff_ne.2 fun heq => hy (heq ▸ hc)
  have hfront : a ++ [')'] = b ++ [')'] := by rw [← hcut hr, ← hcut hs, h]
  exact (List.append_singleton_inj.1 hfront).1

end Text

/-! ### Parameter lists -/

/-- The text between the first parenthesis of a line and its partner, and the text behind the
    partner. -/
def LineShape.outerList? (line : Text) : Option (Text × Text) :=
  (splitAtParen? line).bind fun (_, behind) => Text.splitAtClose? 0 behind

/-- What stands behind the parameters of a signature closes no parenthesis. -/
theorem LineShape.close_not_mem_closing {gap : Text} (hgap : IsGap gap) (terminator : Terminator) :
    ')' ∉ gap ++ [terminator.char] := by
  rcases hgap with rfl | rfl
  · cases terminator <;> decide
  · cases terminator <;> decide

namespace ReaderOptions

/-- A declaration's parameters stand between the first parenthesis of its line and the last closing
    one, and the partner of the first is looked for from where they begin. -/
theorem exists_lastClose_of_declaration? {o : ReaderOptions} {line : Text} {d : Declaration}
    (h : o.declaration? line = some d) :
    ∃ rest, line = d.returnType ++ d.name ++ '(' :: (d.parameterList ++ ')' :: rest) ∧ ')' ∉ rest ∧
      LineShape.outerList? line = Text.splitAtClose? 0 (d.parameterList ++ ')' :: rest) := by
  obtain ⟨terminator, hsig, -, -⟩ := declaration?_eq_some_iff.1 h
  obtain ⟨hd, gap, hgap, hline⟩ := LineShape.signature?_eq_some_iff.1 hsig
  have hassoc : d.parameterList ++ ')' :: gap ++ [terminator.char]
      = d.parameterList ++ ')' :: (gap ++ [terminator.char]) := by simp
  rw [hassoc] at hline
  have hsplit := (LineShape.split_leadIn_name (LineShape.isLeadIn_of_isReturnType hd.isReturnType)
    hd.isWord_of_mem_name (d.parameterList ++ ')' :: (gap ++ [terminator.char]))).1
  refine ⟨gap ++ [terminator.char], hline, LineShape.close_not_mem_closing hgap terminator, ?_⟩
  rw [LineShape.outerList?, hline, hsplit]
  rfl

/-- **The end of a parameter list.**  A parameter list ends at the last closing parenthesis of its
    line.  It is balanced exactly if that parenthesis is the partner of the one behind the name, and
    this is so exactly if the partner exists and no other closing parenthesis stands behind it. -/
theorem parameterList_balanced_iff (o : ReaderOptions) (line : Text) (d : Declaration)
    (h : o.declaration? line = some d) :
    ∃ rest, line = d.returnType ++ d.name ++ '(' :: (d.parameterList ++ ')' :: rest) ∧ ')' ∉ rest ∧
      (Text.Balanced d.parameterList ↔
        LineShape.outerList? line = some (d.parameterList, rest)) ∧
      (Text.Balanced d.parameterList ↔
        ∃ inner behind, LineShape.outerList? line = some (inner, behind) ∧ ')' ∉ behind) := by
  obtain ⟨rest, hline, hrest, houter⟩ := exists_lastClose_of_declaration? h
  have hpartner : Text.Balanced d.parameterList ↔
      LineShape.outerList? line = some (d.parameterList, rest) := by
    rw [houter, Text.splitAtClose?_eq_some_iff, Text.closesAll_zero]
    exact ⟨fun hbalanced => ⟨rfl, hbalanced⟩, fun hsplit => hsplit.2⟩
  refine ⟨rest, hline, hrest, hpartner, ?_⟩
  constructor
  · intro hbalanced
    exact ⟨d.parameterList, rest, hpartner.1 hbalanced, hrest⟩
  · rintro ⟨inner, behind, hinner, hbehind⟩
    rw [houter, Text.splitAtClose?_eq_some_iff, Text.closesAll_zero] at hinner
    obtain ⟨heq, hbalanced⟩ := hinner
    -- Both end at the last closing parenthesis, so they are the same text.
    rw [Text.append_close_inj hrest hbehind heq]
    exact hbalanced

/-- The parameters of a function with a callback: the last closing parenthesis is the partner of the
    first one, though two others stand between them. -/
theorem parameterList_balanced_iff_callback :
    let line := "int QTS_Each(int (*next)(int), void *opaque) \x7b".toList
    let d : Declaration :=
      ⟨"QTS_Each".toList, "int ".toList, "int (*next)(int), void *opaque".toList⟩
    ReaderOptions.declaration? {} line = some d ∧ Text.Balanced d.parameterList := by
  intro line d
  have hd : ReaderOptions.declaration? {} line = some d := by decide
  obtain ⟨rest, -, -, -, hlast⟩ := parameterList_balanced_iff {} line d hd
  exact ⟨hd, hlast.2 ⟨d.parameterList, " \x7b".toList, by decide, by decide⟩⟩

/-- A block that is opened on the line of the definition: the parameters run on to the parenthesis
    in front of its brace. -/
theorem parameterList_unbalanced_block :
    ¬ ∀ (o : ReaderOptions) (line : Text) (d : Declaration), o.declaration? line = some d →
      Text.Balanced d.parameterList := by
  intro h
  have hbalanced := h {} "int QTS_Run(int a) \x7b if (a) \x7b".toList
    ⟨"QTS_Run".toList, "int ".toList, "int a) \x7b if (a".toList⟩ (by decide)
  exact absurd (hbalanced.count_le_of_isPrefix "int a)".toList (by decide)) (by decide)

end ReaderOptions

end CInterface
