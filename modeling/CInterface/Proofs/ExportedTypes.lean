import CInterface.TypeExports
import CInterface.Proofs.ParameterNames

namespace CInterface

/-!
# Exported type declarations — places of the keyword

Writing `export` run by run comes to looking at each place of the text: it is written in front of
the whole words `type` that do not have it, and nothing else changes.

* `TypeExports.Exported` — the text in front of a place ends in the whole word `export` and
  whitespace.
* `TypeExports.Missing` — a place at which an unexported whole word `type` begins.
* `TypeExports.insertExports` — the text with `export` written at the places where it is missing.
* `TypeExports.flatten_exportFrom` — going by runs gives the same text.
* `TypeExports.insertExports_exportFrom` — in the result nothing is missing.
* `TypeExports.insertExports_eq_flatMap` — every character is kept at its place.
-/

/-- Whitespace is in no word. -/
theorem Text.isWord_of_isWhitespace {c : Char} (h : isWhitespace c = true) : isWord c = false :=
  of_isWhitespace (p := fun c => isWord c = false) (by decide +kernel) h

namespace TypeExports

/-! ### Whole words -/

/-- The text begins in the class of word characters or outside of it, unless it is empty. -/
def BeginsIn (word : Bool) (t : Text) : Prop :=
  ∀ c, t.head? = some c → Text.isWord c = word

/-- The text ends in the class of word characters or outside of it, unless it is empty. -/
def EndsIn (word : Bool) (t : Text) : Prop :=
  ∀ c, t.getLast? = some c → Text.isWord c = word

/-- What stands between these texts is a whole word: no further word character touches it. -/
def WholeWord (before after : Text) : Prop :=
  EndsIn false before ∧ BeginsIn false after

/-- The text ends in the whole word `export` and whitespace behind it. -/
def Exported (before : Text) : Prop :=
  ∃ front gap, before = front ++ "export".toList ++ gap ∧ WholeWord front gap ∧ gap ≠ [] ∧
    ∀ c ∈ gap, Text.isWhitespace c = true

/-- Between these texts begins a whole word `type` that is not exported. -/
def Missing (before rest : Text) : Prop :=
  ∃ after, rest = "type".toList ++ after ∧ WholeWord before after ∧ ¬ Exported before

/-! ### Runs -/

/-- A run of word characters, or of others. -/
structure Run (word : Bool) (r : Text) : Prop where
  ne_nil : r ≠ []
  chars : ∀ c ∈ r, Text.isWord c = word

theorem Run.endsIn {word : Bool} {r : Text} (hr : Run word r) (before : Text) :
    EndsIn word (before ++ r) := by
  intro c hc
  rw [List.getLast?_append_of_ne_nil _ hr.ne_nil] at hc
  exact hr.chars c (List.mem_of_getLast? hc)

theorem Run.beginsIn {word : Bool} {r : Text} (hr : Run word r) (after : Text) :
    BeginsIn word (r ++ after) := by
  intro c hc
  rw [List.head?_append_of_ne_nil _ hr.ne_nil] at hc
  exact hr.chars c (List.mem_of_head? hc)

theorem run_singleton {word : Bool} {c : Char} (hc : Text.isWord c = word) : Run word [c] :=
  ⟨List.cons_ne_nil _ _, fun _ hd => List.mem_singleton.1 hd ▸ hc⟩

theorem run_export : Run true "export".toList :=
  ⟨by decide, List.all_eq_true.1 (by decide)⟩

theorem run_type : Run true "type".toList :=
  ⟨by decide, List.all_eq_true.1 (by decide)⟩

/-- The class of a run is that in which the text begins. -/
theorem Run.class_eq {word other : Bool} {r t : Text} (hr : Run word r)
    (h : BeginsIn other (r ++ t)) : word = other := by
  obtain ⟨c, r, rfl⟩ := List.exists_cons_of_ne_nil hr.ne_nil
  rw [← hr.chars c List.mem_cons_self, h c rfl]

/-- The first run begins where the text does. -/
theorem runs_cons (c : Char) (t : Text) : ∃ run rest, runs (c :: t) = (c :: run) :: rest := by
  rw [runs]
  split
  · exact ⟨[], [], rfl⟩
  · next run rest _ =>
    split_ifs
    · exact ⟨run, rest, rfl⟩
    · exact ⟨[], run :: rest, rfl⟩

/-- A run that goes on until a character of the other class is the first of the text. -/
theorem runs_append {word : Bool} {r t : Text} (hr : Run word r) (ht : BeginsIn (!word) t) :
    runs (r ++ t) = r :: runs t := by
  obtain ⟨hne, hchars⟩ := hr
  induction r with
  | nil => exact absurd rfl hne
  | cons c r ih =>
    have hc : Text.isWord c = word := hchars c List.mem_cons_self
    cases r with
    | nil =>
      cases t with
      | nil => rfl
      | cons d t =>
        obtain ⟨run, rest, hruns⟩ := runs_cons d t
        have hd : Text.isWord d = !word := ht d rfl
        show runs (c :: d :: t) = _
        rw [runs, hruns]
        apply if_neg
        simp [hc, hd]
    | cons d r =>
      have hd : Text.isWord d = word := hchars d (by simp)
      rw [List.cons_append, runs, ih (by simp) fun a ha => hchars a (List.mem_cons_of_mem _ ha)]
      apply if_pos
      simp [hc, hd]

/-- A text is empty, or a run stands first and a run of the other class may follow. -/
theorem run_induction {motive : Text → Prop} (nil : motive [])
    (run : ∀ word r t, Run word r → BeginsIn (!word) t → motive t → motive (r ++ t))
    (t : Text) : motive t := by
  induction hn : t.length using Nat.strongRecOn generalizing t with
  | _ n ih =>
    cases t with
    | nil => exact nil
    | cons c t =>
      let inRun : Char → Bool := fun d => Text.isWord d == Text.isWord c
      have hcut := List.takeWhile_append_dropWhile (p := inRun) (l := c :: t)
      have hlen : ((c :: t).dropWhile inRun).length < n := by
        have hle := (List.dropWhile_sublist (l := t) inRun).length_le
        rw [List.dropWhile_cons_of_pos (by simp [inRun]), ← hn, List.length_cons]
        omega
      rw [← hcut]
      refine run (Text.isWord c) _ _ ⟨by simp [inRun], fun a ha => ?_⟩ (fun a ha => ?_)
        (ih _ hlen _ rfl)
      · have hin : inRun a = true := List.mem_takeWhile_imp ha
        exact eq_of_beq hin
      · have hstop := List.head?_dropWhile_not inRun (c :: t)
        rw [ha] at hstop
        exact Bool.eq_not.2 (by simpa [inRun] using hstop)

/-- The run at the beginning of a text can be told. -/
theorem Run.eq_of_append_eq {word : Bool} {r s t u : Text} (hr : Run word r) (hs : Run word s)
    (ht : BeginsIn (!word) t) (hu : BeginsIn (!word) u) (h : r ++ t = s ++ u) : r = s ∧ t = u := by
  have hruns := congrArg runs h
  rw [runs_append hr ht, runs_append hs hu] at hruns
  obtain ⟨rfl, -⟩ := List.cons.inj hruns
  exact ⟨rfl, List.append_cancel_left h⟩

/-! ### Exported places by their runs -/

/-- The end of a text outside of words can be told. -/
theorem Run.eq_of_append_eq_end {a b gap space : Text} (hgap : Run false gap)
    (hspace : Run false space) (ha : EndsIn true a) (hb : EndsIn true b)
    (h : a ++ gap = b ++ space) : gap = space ∧ a = b := by
  have hfound : ∀ {t r : Text}, EndsIn true t → Run false r →
      Text.takeEndWhile (fun c => !Text.isWord c) (t ++ r) = r := by
    intro t r ht hr
    apply Text.takeEndWhile_append
    · exact fun c hc => by rw [ht c hc]; rfl
    · exact fun c hc => by rw [hr.chars c hc]; rfl
  have hend : gap = space := by rw [← hfound ha hgap, h, hfound hb hspace]
  subst hend
  exact ⟨rfl, List.append_cancel_right h⟩

theorem isExport_iff {word gap : Text} : isExport word gap = true ↔
    word = "export".toList ∧ gap ≠ [] ∧ ∀ c ∈ gap, Text.isWhitespace c = true := by
  unfold isExport
  rw [Bool.and_eq_true, Bool.and_eq_true, decide_eq_true_iff, and_assoc, List.all_eq_true,
    Bool.not_eq_true', List.isEmpty_eq_false_iff]

/-- A place behind a gap is exported exactly if the gap and the word in front of it make it so. -/
theorem exported_append_iff {before gap : Text} (hbefore : EndsIn true before)
    (hgap : Run false gap) :
    Exported (before ++ gap) ↔ isExport (Text.takeEndWhile Text.isWord before) gap = true := by
  rw [isExport_iff]
  refine ⟨?_, ?_⟩
  · rintro ⟨front, space, heq, ⟨hfront, -⟩, hne, hspace⟩
    have hrun : Run false space := ⟨hne, fun c hc => Text.isWord_of_isWhitespace (hspace c hc)⟩
    obtain ⟨rfl, rfl⟩ := hgap.eq_of_append_eq_end hrun hbefore (run_export.endsIn front) heq
    exact ⟨Text.takeEndWhile_append hfront run_export.chars, hne, hspace⟩
  · rintro ⟨hword, -, hspace⟩
    refine ⟨Text.dropEndWhile Text.isWord before, gap, ?_, ⟨?_, ?_⟩, hgap.ne_nil, hspace⟩
    · rw [← hword, Text.dropEndWhile_append_takeEndWhile]
    · exact fun c hc => Text.getLast?_dropEndWhile hc
    · exact fun c hc => hgap.chars c (List.mem_of_head? hc)

/-- Whether a place is exported can be read off the end of the text in front of it. -/
theorem exported_iff {before : Text} : Exported before ↔
    isExport (Text.takeEndWhile Text.isWord (Text.dropEndWhile (fun c => !Text.isWord c) before))
      (Text.takeEndWhile (fun c => !Text.isWord c) before) = true := by
  have hcut := Text.dropEndWhile_append_takeEndWhile (fun c => !Text.isWord c) before
  have hfront : EndsIn true (Text.dropEndWhile (fun c => !Text.isWord c) before) :=
    fun c hc => by simpa using Text.getLast?_dropEndWhile hc
  by_cases hgap : Text.takeEndWhile (fun c => !Text.isWord c) before = []
  · -- The text ends in a word, and there is no whitespace at its end.
    rw [hgap, List.append_nil] at hcut
    rw [hgap]
    refine iff_of_false ?_ fun h => (isExport_iff.1 h).2.1 rfl
    rintro ⟨front, space, heq, -, hne, hspace⟩
    obtain ⟨c, hlast⟩ := Option.ne_none_iff_exists'.1 (mt List.getLast?_eq_none_iff.1 hne)
    have hbefore : before.getLast? = some c := by
      rw [heq, List.getLast?_append_of_ne_nil _ hne, hlast]
    have hword : Text.isWord c = true := (hcut ▸ hfront) c hbefore
    have hother := Text.isWord_of_isWhitespace (hspace c (List.mem_of_getLast? hlast))
    exact absurd (hword.symm.trans hother) (by decide)
  · rw [← exported_append_iff hfront ⟨hgap, fun c hc => ?_⟩, hcut]
    simpa using Text.of_mem_takeEndWhile hc

instance (word : Bool) (t : Text) : Decidable (EndsIn word t) :=
  decidable_of_iff (t.getLast?.all (Text.isWord · == word)) (by simp [EndsIn, Option.all_eq_true])

instance (word : Bool) (t : Text) : Decidable (BeginsIn word t) :=
  decidable_of_iff (t.head?.all (Text.isWord · == word)) (by simp [BeginsIn, Option.all_eq_true])

instance (before after : Text) : Decidable (WholeWord before after) :=
  inferInstanceAs (Decidable (_ ∧ _))

instance (before : Text) : Decidable (Exported before) :=
  decidable_of_iff _ exported_iff.symm

instance (before rest : Text) : Decidable (Missing before rest) :=
  decidable_of_iff (∃ after ∈ Text.dropStart? "type".toList rest,
    WholeWord before after ∧ ¬ Exported before)
    (exists_congr fun _ => and_congr_left fun _ => Text.dropStart?_eq_some_iff)

/-! ### Inserting what is missing -/

/-- The text with `export` written at each place where it is missing; `before` is the text in
    front of it. -/
def insertExports (before : Text) : Text → Text
  | [] => []
  | c :: rest =>
    (if Missing before (c :: rest) then "export ".toList else [])
      ++ c :: insertExports (before ++ [c]) rest

/-- Inside of a run nothing is missing. -/
theorem insertExports_inside {word : Bool} {before r t : Text} (hne : before ≠ [])
    (hbefore : EndsIn word before) (hr : ∀ c ∈ r, Text.isWord c = word) :
    insertExports before (r ++ t) = r ++ insertExports (before ++ r) t := by
  induction r generalizing before with
  | nil => simp
  | cons c r ih =>
    have hc : Text.isWord c = word := hr c List.mem_cons_self
    have hnot : ¬ Missing before (c :: (r ++ t)) := by
      rintro ⟨after, heq, ⟨hends, -⟩, -⟩
      -- The keyword would be in the middle of a word.
      obtain rfl : c = 't' := (List.cons.inj heq).1
      obtain ⟨d, hd⟩ := Option.ne_none_iff_exists'.1 (mt List.getLast?_eq_none_iff.1 hne)
      have hword : Text.isWord d = Text.isWord 't' := (hbefore d hd).trans hc.symm
      exact absurd (hword.symm.trans (hends d hd)) (by decide)
    have hlast : EndsIn word (before ++ [c]) := (run_singleton hc).endsIn before
    rw [List.cons_append, insertExports, if_neg hnot, ih (by simp) hlast fun a ha =>
      hr a (List.mem_cons_of_mem _ ha)]
    simp

/-- At the beginning of a run something is missing only if the run is the keyword. -/
theorem missing_run_iff {word : Bool} {before r t : Text} (hr : Run word r)
    (hbefore : EndsIn (!word) before) (ht : BeginsIn (!word) t) :
    Missing before (r ++ t) ↔ r = "type".toList ∧ ¬ Exported before := by
  refine ⟨?_, ?_⟩
  · rintro ⟨after, heq, ⟨-, hafter⟩, hnot⟩
    have hword : word = true := by
      obtain ⟨c, r, rfl⟩ := List.exists_cons_of_ne_nil hr.ne_nil
      obtain rfl : c = 't' := (List.cons.inj heq).1
      exact (hr.chars 't' List.mem_cons_self).symm
    subst hword
    exact ⟨(hr.eq_of_append_eq run_type ht hafter heq).1, hnot⟩
  · rintro ⟨rfl, hnot⟩
    obtain rfl : word = true := (hr.chars 't' (by decide)).symm
    exact ⟨t, rfl, ⟨hbefore, ht⟩, hnot⟩

/-- In front of a run `export` is written if the run is the keyword and not exported. -/
theorem insertExports_run {word : Bool} {before r t : Text} (hr : Run word r)
    (hbefore : EndsIn (!word) before) (ht : BeginsIn (!word) t) :
    insertExports before (r ++ t)
      = (if r = "type".toList ∧ ¬ Exported before then "export ".toList else [])
        ++ r ++ insertExports (before ++ r) t := by
  have hmissing := missing_run_iff hr hbefore ht
  obtain ⟨c, r, rfl⟩ := List.exists_cons_of_ne_nil hr.ne_nil
  have hc : EndsIn word (before ++ [c]) :=
    (run_singleton (hr.chars c List.mem_cons_self)).endsIn before
  have hinside := insertExports_inside (t := t) (by simp) hc fun a ha =>
    hr.chars a (List.mem_cons_of_mem _ ha)
  rw [List.cons_append] at hmissing ⊢
  rw [insertExports, if_congr hmissing rfl rfl, hinside]
  simp only [List.append_assoc, List.cons_append, List.nil_append]

/-! ### The places between runs -/

/-- The text in front of a run of the given class, as far as it matters to that run and the next: what
    is remembered of it are the last two runs. -/
structure InFront (word : Bool) (before previous last : Text) : Prop where
  endsIn : EndsIn (!word) before
  last_eq : word = false → Text.takeEndWhile Text.isWord before = last
  exported_iff : word = true → (Exported before ↔ isExport previous last = true)

theorem inFront_nil (word : Bool) : InFront word [] [] [] := by
  refine ⟨fun c hc => absurd hc (by simp), fun _ => rfl, fun _ => ?_⟩
  exact iff_of_false (by decide) (by decide)

/-- In front of a gap only the word before it matters. -/
theorem inFront_word {before r : Text} (hbefore : EndsIn false before) (hr : Run true r)
    (previous : Text) : InFront false (before ++ r) previous r :=
  ⟨hr.endsIn before, fun _ => Text.takeEndWhile_append hbefore hr.chars,
    fun h => absurd h (by decide)⟩

theorem InFront.append {word : Bool} {before previous last r : Text}
    (h : InFront word before previous last) (hr : Run word r) :
    InFront (!word) (before ++ r) last r := by
  cases word with
  | true => exact inFront_word h.endsIn hr last
  | false =>
    refine ⟨hr.endsIn before, fun h => absurd h (by decide), fun _ => ?_⟩
    rw [exported_append_iff h.endsIn hr, h.last_eq rfl]

/-- Whether the keyword is exported can be told from the last two runs. -/
theorem InFront.keyword_iff {word : Bool} {before previous last r : Text}
    (h : InFront word before previous last) (hr : Run word r) :
    (r = "type".toList ∧ ¬ Exported before) ↔
      (r = "type".toList && !isExport previous last) = true := by
  rw [Bool.and_eq_true, decide_eq_true_iff, Bool.not_eq_true']
  refine and_congr_right fun hkeyword => ?_
  have hword : word = true := (hr.chars 't' (by rw [hkeyword]; decide)).symm
  rw [h.exported_iff hword, Bool.not_eq_true]

/-- One step from run to run. -/
theorem flatten_exportFrom_cons {word : Bool} {before previous last r : Text}
    (h : InFront word before previous last) (hr : Run word r) (rest : List Text) :
    (exportFrom previous last (r :: rest)).flatten
      = (if r = "type".toList ∧ ¬ Exported before then "export ".toList else [])
        ++ r ++ (exportFrom last r rest).flatten := by
  rw [exportFrom, List.flatten_cons, if_congr (h.keyword_iff hr) rfl rfl]
  congr 1
  split_ifs
  · rfl
  · rfl

/-- Going by runs comes to going by places. -/
theorem flatten_exportFrom {word : Bool} {before previous last t : Text}
    (h : InFront word before previous last) (ht : BeginsIn word t) :
    (exportFrom previous last (runs t)).flatten = insertExports before t := by
  induction t using run_induction generalizing word before previous last with
  | nil => rfl
  | run other r t hr hrest ih =>
    obtain rfl := hr.class_eq ht
    rw [runs_append hr hrest, flatten_exportFrom_cons h hr, insertExports_run hr h.endsIn hrest,
      ih (h.append hr) hrest]

/-! ### Nothing is missing afterwards -/

theorem beginsIn_exportFrom {word : Bool} {before previous last t : Text}
    (h : InFront word before previous last) (ht : BeginsIn word t) :
    BeginsIn word (exportFrom previous last (runs t)).flatten := by
  induction t using run_induction with
  | nil => exact fun c hc => absurd hc (by simp [runs, exportFrom])
  | run other r t hr hrest _ =>
    obtain rfl := hr.class_eq ht
    rw [runs_append hr hrest, flatten_exportFrom_cons h hr]
    split_ifs with hkeyword
    · obtain rfl : other = true := (hr.chars 't' (by rw [hkeyword.1]; decide)).symm
      intro c hc
      obtain rfl : 'e' = c := Option.some.inj hc
      rfl
    · rw [List.nil_append]
      exact hr.beginsIn _

/-- Nothing is missing where the keyword is exported. -/
theorem insertExports_keyword {before gap t : Text} (hbefore : EndsIn false before)
    (hne : gap ≠ []) (hgap : ∀ c ∈ gap, Text.isWhitespace c = true) (ht : BeginsIn false t) :
    insertExports before ("export".toList ++ gap ++ "type".toList ++ t)
      = "export".toList ++ gap ++ "type".toList
        ++ insertExports (before ++ ("export".toList ++ gap ++ "type".toList)) t := by
  have hspace : Run false gap := ⟨hne, fun c hc => Text.isWord_of_isWhitespace (hgap c hc)⟩
  have hexported : Exported (before ++ "export".toList ++ gap) :=
    ⟨before, gap, rfl, ⟨hbefore, fun c hc => hspace.chars c (List.mem_of_head? hc)⟩, hne, hgap⟩
  -- Three runs are passed, and at none of them anything is written.
  have hword := insertExports_run run_export hbefore
    (hspace.beginsIn ("type".toList ++ t))
  have hother := insertExports_run hspace (run_export.endsIn before) (run_type.beginsIn t)
  have hkeyword := insertExports_run run_type
    (hspace.endsIn (before ++ "export".toList)) ht
  have hnot : gap ≠ "type".toList := by
    rintro rfl
    exact absurd (hgap 't' (by decide)) (by decide)
  rw [if_neg fun h => absurd h.1 (by decide)] at hword
  rw [if_neg fun h => hnot h.1] at hother
  rw [if_neg fun h => h.2 hexported] at hkeyword
  rw [List.append_assoc, List.append_assoc, List.append_assoc, hword, hother, hkeyword]
  simp only [List.append_assoc, List.nil_append]

/-- In the result nothing is missing. -/
theorem insertExports_exportFrom {word : Bool} {before previous last t : Text}
    (h : InFront word before previous last) (ht : BeginsIn word t) :
    insertExports before (exportFrom previous last (runs t)).flatten
      = (exportFrom previous last (runs t)).flatten := by
  induction t using run_induction generalizing word before previous last with
  | nil => rfl
  | run other r t hr hrest ih =>
    obtain rfl := hr.class_eq ht
    rw [runs_append hr hrest, flatten_exportFrom_cons h hr]
    have hout := beginsIn_exportFrom (h.append hr) hrest
    split_ifs with hkeyword
    · obtain ⟨rfl, -⟩ := hkeyword
      obtain rfl : other = true := (hr.chars 't' (by decide)).symm
      -- The run behind the keyword finds the same word in front of it as it did before.
      have hspace : EndsIn false (before ++ "export ".toList) := by
        intro c hc
        rw [List.getLast?_append_of_ne_nil _ (by decide)] at hc
        obtain rfl : ' ' = c := Option.some.inj hc
        rfl
      have hnext := ih (inFront_word hspace hr last) hrest
      rw [List.append_assoc] at hnext
      have hkept : ∀ c ∈ " ".toList, Text.isWhitespace c = true := List.all_eq_true.1 (by decide)
      have hinsert := insertExports_keyword h.endsIn (by decide) hkept hout
      exact hinsert.trans (congrArg _ hnext)
    · rw [List.nil_append, insertExports_run hr h.endsIn hout, if_neg hkeyword,
        ih (h.append hr) hrest]
      rfl

theorem length_le_length_insertExports (before t : Text) :
    t.length ≤ (insertExports before t).length := by
  induction t generalizing before with
  | nil => simp
  | cons c t ih =>
    have htail := ih (before ++ [c])
    rw [insertExports, List.length_append, List.length_cons, List.length_cons]
    omega

/-- A text to which nothing is added has no place at which something is missing. -/
theorem not_missing_of_insertExports {before t : Text} (h : insertExports before t = t)
    {front rest : Text} (heq : t = front ++ rest) : ¬ Missing (before ++ front) rest := by
  induction t generalizing before front with
  | nil =>
    rintro ⟨after, hrest, -⟩
    rw [hrest] at heq
    exact absurd heq.symm (by simp)
  | cons c t ih =>
    rw [insertExports] at h
    have hnot : ¬ Missing before (c :: t) := by
      intro hmissing
      have hlength := congrArg List.length h
      have hle := length_le_length_insertExports (before ++ [c]) t
      have hseven : "export ".toList.length = 7 := by decide
      rw [if_pos hmissing, List.length_append, List.length_cons, List.length_cons, hseven] at hlength
      omega
    cases front with
    | nil =>
      obtain rfl : c :: t = rest := heq
      rwa [List.append_nil]
    | cons d front =>
      obtain ⟨rfl, htail⟩ := List.cons.inj heq
      rw [if_neg hnot] at h
      have hmissing := ih (List.cons.inj h).2 htail
      rwa [List.append_assoc] at hmissing

/-! ### The whole text -/

theorem exists_beginsIn (t : Text) : ∃ word, BeginsIn word t := by
  cases t with
  | nil => exact ⟨true, fun c hc => absurd hc (by simp)⟩
  | cons c t => exact ⟨Text.isWord c, fun d hd => by rw [Option.some.inj hd]⟩

theorem exportTypes_eq_insertExports (t : Text) : exportTypes t = insertExports [] t := by
  obtain ⟨word, ht⟩ := exists_beginsIn t
  exact flatten_exportFrom (inFront_nil word) ht

theorem insertExports_exportTypes (t : Text) : insertExports [] (exportTypes t) = exportTypes t := by
  obtain ⟨word, ht⟩ := exists_beginsIn t
  exact insertExports_exportFrom (inFront_nil word) ht

/-- Each character is kept, with `export` in front of it if that is missing at its place. -/
theorem insertExports_eq_flatMap (before t : Text) :
    insertExports before t = (t.zipIdx before.length).flatMap fun place =>
      (if Missing ((before ++ t).take place.2) ((before ++ t).drop place.2) then "export ".toList
        else []) ++ [place.1] := by
  induction t generalizing before with
  | nil => rfl
  | cons c t ih =>
    have htail := ih (before ++ [c])
    rw [List.length_append, List.length_singleton, List.append_assoc, List.singleton_append] at htail
    rw [insertExports, htail, List.zipIdx_cons, List.flatMap_cons, List.take_left, List.drop_left]
    simp only [List.append_assoc, List.cons_append, List.nil_append]

end TypeExports

end CInterface
