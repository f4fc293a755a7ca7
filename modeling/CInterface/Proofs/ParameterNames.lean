import CInterface.Binding
import CInterface.Proofs.Signature
import Mathlib.Data.List.Nodup

namespace CInterface

/-!
# Declarations — names of parameters

A parameter without a written name is named for its position, whatever the other parameters are
called.  Two of these positional names never clash, but one of them can be written elsewhere in the
same list.

* `Parameter.Writes` — the name that stands at the end of an entry.
* `Parameter.name_ofEntry_cases` — a parameter has its written name, or else its positional one.
* `Parameter.positionalName_injective` — positional names tell the positions.
* `Declaration.nodup_parameterNames_iff` — when all parameters have different names.
-/

namespace Text

/-- What stands in front of the longest end of a class does not end in that class. -/
theorem getLast?_dropEndWhile {p : Char → Bool} {t : Text} {c : Char}
    (h : (dropEndWhile p t).getLast? = some c) : p c = false := by
  rw [dropEndWhile, List.getLast?_reverse] at h
  have hstop := List.head?_dropWhile_not p t.reverse
  rw [h] at hstop
  simpa using hstop

/-- A number can be told from its digits. -/
theorem decimal_injective : Function.Injective decimal := by
  intro n m h
  calc n = Nat.ofDigitChars 10 (decimal n) 0 := Nat.ofDigitChars_ten_toDigits.symm
    _ = Nat.ofDigitChars 10 (decimal m) 0 := by rw [h]
    _ = m := Nat.ofDigitChars_ten_toDigits

end Text

namespace Parameter

/-! ### Written names -/

/-- The entry ends in a name: in name characters, as many as there are, with something else in front
    of them. -/
def Writes (entry name : Text) : Prop :=
  ∃ front, Text.trim entry = front ++ name ∧ front ≠ [] ∧ name ≠ [] ∧
    (∀ c ∈ name, Text.isNameChar c = true) ∧
    ∀ c, front.getLast? = some c → Text.isNameChar c = false

/-- An entry writes at most one name, which is found by cutting off its end. -/
theorem writes_iff {entry name : Text} :
    Writes entry name ↔ name = Text.takeEndWhile Text.isNameChar (Text.trim entry) ∧ name ≠ [] ∧
      Text.dropEndWhile Text.isNameChar (Text.trim entry) ≠ [] := by
  constructor
  · rintro ⟨front, heq, hfront, hname, hchars, hlast⟩
    rw [heq, Text.takeEndWhile_append hlast hchars, Text.dropEndWhile_append hlast hchars]
    exact ⟨rfl, hname, hfront⟩
  · rintro ⟨rfl, hname, hfront⟩
    exact ⟨_, (Text.dropEndWhile_append_takeEndWhile _ _).symm, hfront, hname,
      fun c hc => Text.of_mem_takeEndWhile hc, fun c hc => Text.getLast?_dropEndWhile hc⟩

/-- A parameter has its written name, or else the name of its position. -/
theorem name_ofEntry_cases (index : Nat) (entry : Text) :
    Writes entry (ofEntry index entry).name ∨
      (∀ name, ¬ Writes entry name) ∧ (ofEntry index entry).name = positionalName index := by
  unfold ofEntry
  dsimp only
  split
  · next hguard =>
    refine .inr ⟨fun name hwrites => ?_, rfl⟩
    obtain ⟨rfl, hname, hfront⟩ := writes_iff.1 hwrites
    rcases Bool.or_eq_true_iff.1 hguard with hempty | hempty
    · exact hname (List.isEmpty_iff.1 hempty)
    · exact hfront (List.isEmpty_iff.1 hempty)
  · next hguard =>
    have hparts : Text.takeEndWhile Text.isNameChar (Text.trim entry) ≠ [] ∧
        Text.dropEndWhile Text.isNameChar (Text.trim entry) ≠ [] := by
      simpa using hguard
    exact .inl (writes_iff.2 ⟨rfl, hparts⟩)

/-- A written name is the parameter's name at every position. -/
theorem Writes.name_ofEntry {entry name : Text} (h : Writes entry name) (index : Nat) :
    (ofEntry index entry).name = name := by
  rcases name_ofEntry_cases index entry with hwrites | ⟨hnone, -⟩
  · rw [(writes_iff.1 hwrites).1, (writes_iff.1 h).1]
  · exact absurd h (hnone name)

/-! ### Positional names -/

theorem positionalName_injective : Function.Injective positionalName := by
  intro i j h
  exact Text.decimal_injective (List.append_cancel_left h)

end Parameter

/-! ### The names of a parameter list -/

/-- The values of a list and its positions are all different exactly if each value tells its
    position. -/
theorem nodup_mapIdx_iff {α β : Type} {f : Nat → α → β} {l : List α} :
    (l.mapIdx f).Nodup ↔
      ∀ i j a b, l[i]? = some a → l[j]? = some b → f i a = f j b → i = j := by
  rw [List.nodup_iff_injective_getElem]
  constructor
  · intro h i j a b ha hb heq
    obtain ⟨hi, rfl⟩ := List.getElem?_eq_some_iff.1 ha
    obtain ⟨hj, rfl⟩ := List.getElem?_eq_some_iff.1 hb
    have hfin := @h ⟨i, by simpa using hi⟩ ⟨j, by simpa using hj⟩ (by simpa using heq)
    exact congrArg Fin.val hfin
  · intro h i j heq
    have hi : i.val < l.length := by simpa using i.isLt
    have hj : j.val < l.length := by simpa using j.isLt
    refine Fin.ext (h i j l[i.val] l[j.val] (List.getElem?_eq_getElem hi)
      (List.getElem?_eq_getElem hj) ?_)
    simpa using heq

namespace Declaration

/-- No name is written in two entries of the parameter list. -/
def WritesDistinctNames (d : Declaration) : Prop :=
  ∀ (i j : Nat) (entry other name : Text), d.entries[i]? = some entry →
    d.entries[j]? = some other → Parameter.Writes entry name → Parameter.Writes other name → i = j

/-- No entry without a name has a position whose name is written in the parameter list. -/
def WritesNoPositionalName (d : Declaration) : Prop :=
  ∀ (i : Nat) (entry : Text), d.entries[i]? = some entry → (∀ name, ¬ Parameter.Writes entry name) →
    ∀ other ∈ d.entries, ¬ Parameter.Writes other (Parameter.positionalName i)

variable {d : Declaration}

/-- The names are different exactly if each one tells the position of its entry. -/
theorem nodup_names_iff : (d.parameters.map Parameter.name).Nodup ↔
    ∀ (i j : Nat) (entry other : Text), d.entries[i]? = some entry → d.entries[j]? = some other →
      (Parameter.ofEntry i entry).name = (Parameter.ofEntry j other).name → i = j := by
  have hnames : d.parameters.map Parameter.name
      = d.entries.mapIdx fun i entry => (Parameter.ofEntry i entry).name := by
    apply List.ext_getElem?
    intro i
    rw [parameters, List.getElem?_map, List.getElem?_mapIdx, List.getElem?_mapIdx, Option.map_map]
    rfl
  rw [hnames, nodup_mapIdx_iff]

theorem writesDistinctNames_of_nodup (h : (d.parameters.map Parameter.name).Nodup) :
    d.WritesDistinctNames := by
  intro i j entry other name hi hj hentry hother
  apply nodup_names_iff.1 h i j entry other hi hj
  rw [hentry.name_ofEntry, hother.name_ofEntry]

theorem writesNoPositionalName_of_nodup (h : (d.parameters.map Parameter.name).Nodup) :
    d.WritesNoPositionalName := by
  intro i entry hi hnone other hmem hother
  obtain ⟨j, hj⟩ := List.mem_iff_getElem?.1 hmem
  rcases Parameter.name_ofEntry_cases i entry with hwrites | ⟨-, hposition⟩
  · exact hnone _ hwrites
  · have hij : i = j := by
      apply nodup_names_iff.1 h i j entry other hi hj
      rw [hposition, hother.name_ofEntry]
    -- The two entries would be the same one, with a name and without.
    subst hij
    obtain rfl : entry = other := Option.some.inj (hi.symm.trans hj)
    exact hnone _ hother

theorem nodup_of_writes (hdistinct : d.WritesDistinctNames)
    (hposition : d.WritesNoPositionalName) : (d.parameters.map Parameter.name).Nodup := by
  refine nodup_names_iff.2 fun i j entry other hi hj heq => ?_
  -- Each of the two names is written or positional.
  rcases Parameter.name_ofEntry_cases i entry with hentry | ⟨hentry, hnamei⟩
  · rcases Parameter.name_ofEntry_cases j other with hother | ⟨hother, hnamej⟩
    · rw [← heq] at hother
      exact hdistinct i j entry other _ hi hj hentry hother
    · rw [heq, hnamej] at hentry
      exact absurd hentry (hposition j other hj hother entry (List.mem_of_getElem? hi))
  · rcases Parameter.name_ofEntry_cases j other with hother | ⟨hother, hnamej⟩
    · rw [← heq, hnamei] at hother
      exact absurd hother (hposition i entry hi hentry other (List.mem_of_getElem? hj))
    · rw [hnamei, hnamej] at heq
      exact Parameter.positionalName_injective heq

/-- **Names of parameters.**  The parameters of a declaration, and those of its binding, have
    different names exactly if the written names are different and none of them is the name of a
    position without a written one. -/
theorem nodup_parameterNames_iff (d : Declaration) :
    ((d.parameters.map Parameter.name).Nodup ↔
      d.WritesDistinctNames ∧ d.WritesNoPositionalName) ∧
    ∀ aliases : AliasTable, (Binding.ofDeclaration aliases d).parameters.map BindingParameter.name
      = d.parameters.map Parameter.name := by
  refine ⟨?_, fun aliases => by simp [Binding.ofDeclaration, Binding.ofParameter]⟩
  constructor
  · intro h
    exact ⟨writesDistinctNames_of_nodup h, writesNoPositionalName_of_nodup h⟩
  · rintro ⟨hdistinct, hposition⟩
    exact nodup_of_writes hdistinct hposition

/-- A parameter called `arg1` in front of one without a name: only one name is written, and yet both
    parameters have it. -/
theorem parameterNames_clash :
    ¬ ∀ d : Declaration, d.WritesDistinctNames → (d.parameters.map Parameter.name).Nodup := by
  intro h
  let d : Declaration := ⟨"QTS_F".toList, "int ".toList, "int arg1, int *".toList⟩
  have hentries : d.entries = ["int arg1".toList, " int *".toList] := by decide
  have hunnamed : ∀ name, ¬ Parameter.Writes " int *".toList name := by
    intro name hwrites
    obtain ⟨hname, hne, -⟩ := Parameter.writes_iff.1 hwrites
    have hnil : Text.takeEndWhile Text.isNameChar (Text.trim " int *".toList) = [] := by decide
    exact hne (hname.trans hnil)
  have hfirst : ∀ (i : Nat) (entry name : Text), d.entries[i]? = some entry →
      Parameter.Writes entry name → i = 0 := by
    intro i entry name hi hwrites
    rw [hentries] at hi
    match i with
    | 0 => rfl
    | 1 =>
      obtain rfl : " int *".toList = entry := Option.some.inj hi
      exact absurd hwrites (hunnamed name)
    | i + 2 => exact absurd hi (by simp)
  have hdistinct : d.WritesDistinctNames := by
    intro i j entry other name hi hj hentry hother
    rw [hfirst i entry name hi hentry, hfirst j other name hj hother]
  exact absurd (h d hdistinct) (by decide)

end Declaration

end CInterface
