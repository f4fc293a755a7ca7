import CInterface.Interface.LineShape
import Mathlib.Data.List.DropRight

namespace CInterface

/-!
# Interfaces — the grammar of signatures

A line is a whole signature in at most one way, and the declaration read off it says which.

* `LineShape.isReturnType_iff` — a return type is a stretch of type characters and a stretch of
  gap characters, both not empty.
* `LineShape.isLeadIn_iff_spells` — what stands in front of a name is a repetition of such
  stretches.
* `LineShape.split_leadIn_name` — a name and the text in front of it are found again.
* `Declaration.WellFormed` — what name and return type of a declaration have to be for it to
  stand on a line.
* `LineShape.signature?_eq_some_iff` — a line is a signature exactly if it is spelled out of a
  well-formed declaration, a terminator and at most one space in front of the terminator.
* `LineShape.signature?_prototype` — a prototype is read as the declaration it was written for.
-/

namespace Text

/-! ### The end of a text -/

/-- The end found behind a character outside the class is the whole end. -/
theorem takeEndWhile_append {p : Char → Bool} {a b : Text}
    (ha : ∀ c, a.getLast? = some c → p c = false) (hb : ∀ c ∈ b, p c = true) :
    takeEndWhile p (a ++ b) = b := by
  have hrev : ∀ c ∈ b.reverse, p c = true := fun c hc => hb c (List.mem_reverse.1 hc)
  have hstop : a.reverse.takeWhile p = [] := by
    rcases a.eq_nil_or_concat' with rfl | ⟨a, c, rfl⟩
    · rfl
    · simp [ha c (by simp)]
  rw [takeEndWhile, List.reverse_append, List.takeWhile_append_of_pos hrev, hstop,
    List.append_nil, List.reverse_reverse]

/-- What is left in front of an end that is found whole. -/
theorem dropEndWhile_append {p : Char → Bool} {a b : Text}
    (ha : ∀ c, a.getLast? = some c → p c = false) (hb : ∀ c ∈ b, p c = true) :
    dropEndWhile p (a ++ b) = a := by
  have h := dropEndWhile_append_takeEndWhile p (a ++ b)
  rw [takeEndWhile_append ha hb] at h
  exact List.append_cancel_right h

theorem of_mem_takeEndWhile {p : Char → Bool} {t : Text} {c : Char} (h : c ∈ takeEndWhile p t) :
    p c = true :=
  List.mem_rtakeWhile_imp h

end Text

namespace LineShape

/-! ### The text in front of the first parenthesis -/

theorem splitAtParen?_eq_some_iff {line front behind : Text} :
    splitAtParen? line = some (front, behind) ↔ line = front ++ '(' :: behind ∧ '(' ∉ front := by
  constructor
  · intro h
    rw [splitAtParen?] at h
    split at h
    · exact absurd h (by simp)
    · next c rest hdrop =>
      obtain ⟨rfl, rfl⟩ : line.takeWhile (· != '(') = front ∧ rest = behind := by simpa using h
      have hc : c = '(' := by
        have hhead := List.head_dropWhile_not (· != '(') (l := line) (by simp [hdrop])
        simpa [hdrop] using hhead
      subst hc
      refine ⟨?_, fun hmem => by simpa using List.mem_takeWhile_imp hmem⟩
      rw [← hdrop, List.takeWhile_append_dropWhile]
  · rintro ⟨rfl, hfront⟩
    have hall : ∀ c ∈ front, (c != '(') = true := by
      intro c hc
      simpa using fun h : c = '(' => hfront (h ▸ hc)
    rw [splitAtParen?, List.dropWhile_append_of_pos hall, List.takeWhile_append_of_pos hall]
    simp

/-! ### Return types -/

theorem isWord_of_isGapChar {c : Char} (h : isGapChar c = true) : Text.isWord c = false := by
  rcases Bool.or_eq_true_iff.1 h with h | h
  · exact Text.isWord_of_isBlank h
  · rw [eq_of_beq h]
    exact Text.isWord_star

/-- A return type is a stretch of type characters and a stretch of gap characters, both not
    empty.  A star may belong to either. -/
theorem isReturnType_iff {t : Text} :
    isReturnType t = true ↔ ∃ a b, t = a ++ b ∧ a ≠ [] ∧ b ≠ [] ∧
      (∀ c ∈ a, isTypeChar c = true) ∧ (∀ c ∈ b, isGapChar c = true) := by
  constructor
  · intro h
    simp only [isReturnType, Bool.and_eq_true, List.all_eq_true, Option.any_eq_true,
      decide_eq_true_eq] at h
    obtain ⟨⟨⟨⟨c, hhead, hc⟩, hgap⟩, ⟨e, hlast, he⟩⟩, hlen⟩ := h
    by_cases hdrop : t.dropWhile isTypeChar = []
    · -- Type characters throughout: the last one is a star and makes up the gap.
      obtain ⟨a, rfl⟩ := List.getLast?_eq_some_iff.1 hlast
      have hall := List.dropWhile_eq_nil_iff.1 hdrop
      refine ⟨a, [e], rfl, ?_, by simp, fun c hc => hall c (by simp [hc]), by simpa using he⟩
      rintro rfl
      simp at hlen
    · refine ⟨t.takeWhile isTypeChar, t.dropWhile isTypeChar,
        List.takeWhile_append_dropWhile.symm, ?_, hdrop, fun c hc => List.mem_takeWhile_imp hc,
        hgap⟩
      obtain ⟨rest, rfl⟩ := List.head?_eq_some_iff.1 hhead
      simp [hc]
  · rintro ⟨a, b, rfl, ha, hb, htype, hgap⟩
    obtain ⟨c, a, rfl⟩ := List.exists_cons_of_ne_nil ha
    obtain ⟨e, he⟩ := Option.ne_none_iff_exists'.1 (mt List.getLast?_eq_none_iff.1 hb)
    have hlen : 1 ≤ b.length := List.length_pos_iff.2 hb
    have hdrop : ∀ x ∈ b.dropWhile isTypeChar, isGapChar x = true :=
      fun x hx => hgap x ((List.dropWhile_sublist isTypeChar).subset hx)
    simp only [isReturnType, Bool.and_eq_true, List.all_eq_true, Option.any_eq_true,
      decide_eq_true_eq, List.dropWhile_append_of_pos htype]
    have hlast : isGapChar e = true := hgap e (List.mem_of_getLast? he)
    refine ⟨⟨⟨⟨c, by simp, htype c (by simp)⟩, hdrop⟩, ⟨e, ?_, hlast⟩⟩, ?_⟩
    · rw [List.getLast?_append, he]
      rfl
    · simp only [List.cons_append, List.length_cons, List.length_append]
      omega

/-- A character of a return type is a type character or a gap character. -/
theorem isTypeChar_or_isGapChar_of_mem {t : Text} (h : isReturnType t = true) {c : Char}
    (hc : c ∈ t) : isTypeChar c = true ∨ isGapChar c = true := by
  obtain ⟨a, b, rfl, -, -, ha, hb⟩ := isReturnType_iff.1 h
  exact (List.mem_append.1 hc).imp (ha c) (hb c)

/-! ### The text in front of a name -/

theorem isLeadIn_iff {t : Text} :
    isLeadIn t = true ↔ (∃ c, t.head? = some c ∧ isTypeChar c = true) ∧
      (∀ c ∈ t, isTypeChar c = true ∨ isGapChar c = true) ∧
      (∃ c, t.getLast? = some c ∧ isGapChar c = true) ∧ 2 ≤ t.length := by
  simp only [isLeadIn, Bool.and_eq_true, List.all_eq_true, Option.any_eq_true, Bool.or_eq_true,
    decide_eq_true_eq, and_assoc]

/-- A return type is one of the texts that can stand in front of a name. -/
theorem isLeadIn_of_isReturnType {t : Text} (h : isReturnType t = true) : isLeadIn t = true := by
  have hchars : ∀ c ∈ t, isTypeChar c = true ∨ isGapChar c = true :=
    fun c hc => isTypeChar_or_isGapChar_of_mem h hc
  simp only [isReturnType, Bool.and_eq_true, Option.any_eq_true, decide_eq_true_eq] at h
  exact isLeadIn_iff.2 ⟨h.1.1.1, hchars, h.1.2, h.2⟩

/-- One or more stretches of type and gap characters, each shaped like a return type. -/
inductive SpellsLeadIn : Text → Prop
  | one {stretch : Text} : isReturnType stretch = true → SpellsLeadIn stretch
  | more {stretch rest : Text} :
      isReturnType stretch = true → SpellsLeadIn rest → SpellsLeadIn (stretch ++ rest)

theorem isLeadIn_append {s t : Text} (hs : isLeadIn s = true) (ht : isLeadIn t = true) :
    isLeadIn (s ++ t) = true := by
  obtain ⟨⟨first, hhead, hfirst⟩, hfront, -, hlength⟩ := isLeadIn_iff.1 hs
  obtain ⟨-, hbehind, ⟨last, hlast, hgap⟩, -⟩ := isLeadIn_iff.1 ht
  refine isLeadIn_iff.2 ⟨⟨first, by simp [hhead], hfirst⟩, ?_, ⟨last, by simp [hlast], hgap⟩, ?_⟩
  · intro c hc
    exact (List.mem_append.1 hc).elim (hfront c) (hbehind c)
  · rw [List.length_append]
    omega

/-- What begins behind a gap in a text in front of a name is another such text. -/
theorem isLeadIn_of_append_cons {t stretch : Text} {c : Char} {tail : Text}
    (h : isLeadIn t = true) (ht : t = stretch ++ c :: tail) (hc : isGapChar c = false) :
    isLeadIn (c :: tail) = true := by
  obtain ⟨-, hchars, ⟨last, hlast, hends⟩, -⟩ := isLeadIn_iff.1 h
  have hmem : ∀ e ∈ c :: tail, e ∈ t := by
    intro e he
    rw [ht]
    exact List.mem_append_right stretch he
  have hend : (c :: tail).getLast? = some last := by
    rw [ht, List.getLast?_append] at hlast
    simpa using hlast
  refine isLeadIn_iff.2 ⟨⟨c, rfl, (hchars c (hmem c (by simp))).resolve_right (by simp [hc])⟩,
    fun e he => hchars e (hmem e he), ⟨last, hend, hends⟩, ?_⟩
  cases tail with
  | nil =>
    obtain rfl : c = last := by simpa using hend
    simp [hc] at hends
  | cons e tail => simp

/-- A text in front of a name that is no single stretch is a stretch and another such text, which
    begins with the first word behind a gap. -/
theorem exists_stretch_append {t : Text} (h : isLeadIn t = true) (hmore : isReturnType t ≠ true) :
    ∃ stretch rest, t = stretch ++ rest ∧ isReturnType stretch = true ∧ isLeadIn rest = true := by
  obtain ⟨⟨first, hhead, hfirst⟩, -, ⟨last, hlast, hends⟩, hlength⟩ := isLeadIn_iff.1 h
  have hleft : (t.dropWhile isTypeChar).dropWhile isGapChar ≠ [] := by
    intro hnil
    refine hmore ?_
    simp only [isReturnType, Bool.and_eq_true, List.all_eq_true, Option.any_eq_true,
      decide_eq_true_eq]
    exact ⟨⟨⟨⟨first, hhead, hfirst⟩, List.dropWhile_eq_nil_iff.1 hnil⟩, ⟨last, hlast, hends⟩⟩,
      hlength⟩
  have hstart := List.head?_dropWhile_not isGapChar (t.dropWhile isTypeChar)
  obtain ⟨c, tail, hrest⟩ := List.exists_cons_of_ne_nil hleft
  rw [hrest] at hstart
  have hbehind := List.takeWhile_append_dropWhile (p := isGapChar) (l := t.dropWhile isTypeChar)
  rw [hrest] at hbehind
  have ht : t = t.takeWhile isTypeChar ++ (t.dropWhile isTypeChar).takeWhile isGapChar
      ++ c :: tail := by
    rw [List.append_assoc, hbehind, List.takeWhile_append_dropWhile]
  have hlead := isLeadIn_of_append_cons h ht hstart
  refine ⟨_, c :: tail, ht, isReturnType_iff.2 ⟨_, _, rfl, ?_, ?_,
    fun c hc => List.mem_takeWhile_imp hc, fun c hc => List.mem_takeWhile_imp hc⟩, hlead⟩
  · obtain ⟨rest, rfl⟩ := List.head?_eq_some_iff.1 hhead
    simp [hfirst]
  · -- Without a gap the first word would go on with the next one.
    intro hnil
    obtain ⟨⟨e, he, hword⟩, -⟩ := isLeadIn_iff.1 hlead
    have hnot := List.head?_dropWhile_not isTypeChar t
    rw [hnil, List.nil_append] at hbehind
    rw [← hbehind, he] at hnot
    exact absurd hword (by simp [hnot])

/-- The closed form of what stands in front of a name is the repetition of stretches. -/
theorem isLeadIn_iff_spells {t : Text} : isLeadIn t = true ↔ SpellsLeadIn t := by
  constructor
  · intro h
    induction hn : t.length using Nat.strong_induction_on generalizing t with
    | _ n ih =>
      by_cases hone : isReturnType t = true
      · exact .one hone
      · obtain ⟨stretch, rest, rfl, hstretch, hrest⟩ := exists_stretch_append h hone
        obtain ⟨-, -, -, hlength⟩ := isLeadIn_iff.1 (isLeadIn_of_isReturnType hstretch)
        refine .more hstretch (ih rest.length ?_ hrest rfl)
        rw [← hn, List.length_append]
        omega
  · intro h
    induction h with
    | one hstretch => exact isLeadIn_of_isReturnType hstretch
    | more hstretch _ ih => exact isLeadIn_append (isLeadIn_of_isReturnType hstretch) ih

/-- The text in front of a name and the name are found again: the first parenthesis stands behind
    the name, and the name begins where the last gap ends. -/
theorem split_leadIn_name {lead name : Text} (hlead : isLeadIn lead = true)
    (hname : ∀ c ∈ name, Text.isWord c = true) (rest : Text) :
    splitAtParen? (lead ++ name ++ '(' :: rest) = some (lead ++ name, rest) ∧
      Text.takeEndWhile Text.isWord (lead ++ name) = name ∧
      Text.dropEndWhile Text.isWord (lead ++ name) = lead := by
  obtain ⟨-, hchars, ⟨e, he, hgap⟩, -⟩ := isLeadIn_iff.1 hlead
  have hparen : '(' ∉ lead ++ name := by
    intro hmem
    rcases List.mem_append.1 hmem with hmem | hmem
    · exact absurd (hchars _ hmem) (by decide)
    · exact absurd (hname _ hmem) (by decide)
  have hlast : ∀ c, lead.getLast? = some c → Text.isWord c = false := by
    intro c hc
    obtain rfl : e = c := Option.some.inj (he.symm.trans hc)
    exact isWord_of_isGapChar hgap
  exact ⟨splitAtParen?_eq_some_iff.2 ⟨rfl, hparen⟩, Text.takeEndWhile_append hlast hname,
    Text.dropEndWhile_append hlast hname⟩

/-! ### The closing of a signature -/

/-- The character of a terminator. -/
def Terminator.char : Terminator → Char
  | .brace => '\x7b'
  | .semicolon => ';'

theorem Terminator.ofChar?_eq_some_iff {c : Char} {t : Terminator} :
    Terminator.ofChar? c = some t ↔ c = t.char := by
  constructor
  · intro h
    rw [Terminator.ofChar?] at h
    split at h
    · next hc => rw [hc, ← Option.some.inj h]; rfl
    · split at h
      · next hc => rw [hc, ← Option.some.inj h]; rfl
      · exact absurd h (by simp)
  · rintro rfl
    cases t <;> rfl

/-- What may stand between the closing parenthesis and the terminator: nothing or one space. -/
def IsGap (gap : Text) : Prop :=
  gap = [] ∨ gap = [' ']

theorem closing?_eq_some_iff {t params : Text} {terminator : Terminator} :
    closing? t = some (params, terminator) ↔
      ∃ gap, IsGap gap ∧ t = params ++ ')' :: gap ++ [terminator.char] := by
  constructor
  · intro h
    rw [closing?] at h
    split at h
    -- The text is read from its end: a space in front of the terminator, or none.
    · next c front hrev =>
      obtain ⟨term, hterm, heq⟩ := Option.map_eq_some_iff.1 h
      obtain ⟨rfl, rfl⟩ := Prod.mk.inj heq
      refine ⟨[' '], .inr rfl, ?_⟩
      rw [← Terminator.ofChar?_eq_some_iff.1 hterm, ← List.reverse_reverse t, hrev]
      simp
    · next c front hrev =>
      obtain ⟨term, hterm, heq⟩ := Option.map_eq_some_iff.1 h
      obtain ⟨rfl, rfl⟩ := Prod.mk.inj heq
      refine ⟨[], .inl rfl, ?_⟩
      rw [← Terminator.ofChar?_eq_some_iff.1 hterm, ← List.reverse_reverse t, hrev]
      simp
    · exact absurd h (by simp)
  · rintro ⟨gap, rfl | rfl, rfl⟩
    · simp [closing?, Terminator.ofChar?_eq_some_iff]
    · simp [closing?, Terminator.ofChar?_eq_some_iff]

end LineShape

/-! ### Whole signatures -/

/-- A declaration that can stand on a line: its name is a word and its return type has the shape
    of one. -/
structure Declaration.WellFormed (d : Declaration) : Prop where
  name_ne_nil : d.name ≠ []
  isWord_of_mem_name : ∀ c ∈ d.name, Text.isWord c = true
  isReturnType : LineShape.isReturnType d.returnType = true

namespace LineShape

/-- A signature is read by cutting at the first parenthesis, then off the front's end and off the
    closing. -/
theorem signature?_eq_some {line : Text} {d : Declaration} {terminator : Terminator} :
    signature? line = some (d, terminator) ↔ ∃ front behind,
      splitAtParen? line = some (front, behind) ∧
      closing? behind = some (d.parameterList, terminator) ∧
      Text.takeEndWhile Text.isWord front = d.name ∧
      Text.dropEndWhile Text.isWord front = d.returnType ∧
      d.name ≠ [] ∧ isReturnType d.returnType = true := by
  constructor
  · intro h
    simp only [signature?, Option.bind_eq_bind, Option.bind_eq_some_iff] at h
    obtain ⟨⟨front, behind⟩, hsplit, ⟨params, term⟩, hclosing, h⟩ := h
    split at h
    · exact absurd h (by simp)
    · next hguard =>
      obtain ⟨rfl, rfl⟩ := Prod.mk.inj (Option.some.inj h)
      have hparts : Text.takeEndWhile Text.isWord front ≠ [] ∧
          isReturnType (Text.dropEndWhile Text.isWord front) = true := by
        simpa using hguard
      exact ⟨front, behind, hsplit, hclosing, rfl, rfl, hparts⟩
  · rintro ⟨front, behind, hsplit, hclosing, hname, htype, hne, hret⟩
    simp only [signature?, hsplit, hclosing, Option.bind_eq_bind, Option.bind_some, hname, htype]
    simp [hne, hret]

/-- **The signature grammar.**  A line is a signature exactly if it is spelled out of the return
    type, name and parameters of a well-formed declaration and a terminator, with at most one
    space in front of the terminator. -/
theorem signature?_eq_some_iff {line : Text} {d : Declaration} {terminator : Terminator} :
    signature? line = some (d, terminator) ↔ d.WellFormed ∧ ∃ gap, IsGap gap ∧
      line = d.returnType ++ d.name ++ '(' ::
        (d.parameterList ++ ')' :: gap ++ [terminator.char]) := by
  rw [signature?_eq_some]
  constructor
  · rintro ⟨front, behind, hsplit, hclosing, hname, htype, hne, hret⟩
    obtain ⟨rfl, -⟩ := splitAtParen?_eq_some_iff.1 hsplit
    obtain ⟨gap, hgap, rfl⟩ := closing?_eq_some_iff.1 hclosing
    refine ⟨⟨hne, fun c hc => Text.of_mem_takeEndWhile (hname ▸ hc), hret⟩, gap, hgap, ?_⟩
    rw [← hname, ← htype, Text.dropEndWhile_append_takeEndWhile]
  · rintro ⟨hd, gap, hgap, rfl⟩
    obtain ⟨hsplit, hname, htype⟩ :=
      split_leadIn_name (isLeadIn_of_isReturnType hd.isReturnType) hd.isWord_of_mem_name
        (d.parameterList ++ ')' :: gap ++ [terminator.char])
    exact ⟨_, _, hsplit, closing?_eq_some_iff.2 ⟨gap, hgap, rfl⟩, hname, htype, hd.name_ne_nil,
      hd.isReturnType⟩

/-- A prototype is read as the declaration it was written for. -/
theorem signature?_prototype {d : Declaration} (h : d.WellFormed) :
    signature? d.prototype = some (d, .semicolon) :=
  signature?_eq_some_iff.2 ⟨h, [], .inl rfl, by simp [Declaration.prototype, Terminator.char]⟩

end LineShape

end CInterface
