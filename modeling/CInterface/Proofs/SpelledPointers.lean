import CInterface.Proofs.Widening
import CInterface.Settings

namespace CInterface

/-!
# Value types — spelled-out pointers

The name of a type spells its stars out, and whether a parameter is widened is read off that name.
A type can therefore read as a pointer to an alias without being one: the word that stands for a
star may be part of a C name, and more text may follow it.

* `ValueType.PointerTo` — the type is the alias, followed by stars and nothing else.
* `ValueType.ReadsAsPointer` — the name of the type begins with that of a pointer to the alias.
* `ValueType.readsAsPointer_iff_pointerTo` — the two agree where no pointer is spelled out in C.
* `Binding.widened_iff_readsAsPointer` — which parameters are widened.
* `Binding.widened_table` — a type without a star that is widened.
-/

namespace ValueType

/-! ### Where a name reads as a pointer -/

/-- The squeezed type is the name, followed by one or more stars. -/
def PointerTo (name squeezed : Text) : Prop :=
  ∃ n, squeezed = name ++ List.replicate (n + 1) '*'

/-- The squeezed type has a beginning that is spelled like the name, and behind it a star or the word
    that stands for one. -/
def ReadsAsPointer (name squeezed : Text) : Prop :=
  ∃ front rest, squeezed = front ++ rest ∧ spellStars front = name ∧
    (['*'] <+: rest ∨ pointerSuffix <+: rest)

theorem spellStars_append (s t : Text) : spellStars (s ++ t) = spellStars s ++ spellStars t :=
  List.flatMap_append

theorem spellStars_star_cons (s : Text) : spellStars ('*' :: s) = pointerSuffix ++ spellStars s :=
  rfl

theorem spellStars_cons_of_ne {c : Char} (h : c ≠ '*') (s : Text) :
    spellStars (c :: s) = c :: spellStars s := by
  show (if c = '*' then pointerSuffix else [c]) ++ spellStars s = _
  rw [if_neg h]
  rfl

/-- A text that no star can have made is in the type as it is in the name. -/
theorem isPrefix_of_isPrefix_spellStars {t s : Text} (ht : 'P' ∉ t) (h : t <+: spellStars s) :
    t <+: s := by
  induction t generalizing s with
  | nil => exact List.nil_prefix
  | cons a t ih =>
    cases s with
    | nil => exact absurd (List.prefix_nil.1 h) (by simp)
    | cons c s =>
      by_cases hc : c = '*'
      · -- The name begins with the first letter of the word for a star.
        subst hc
        obtain ⟨rfl, -⟩ : a = 'P' ∧ _ := List.cons_prefix_cons.1 h
        exact absurd List.mem_cons_self ht
      · rw [spellStars_cons_of_ne hc] at h
        obtain ⟨rfl, htail⟩ := List.cons_prefix_cons.1 h
        exact List.cons_prefix_cons.2 ⟨rfl, ih (fun hmem => ht (List.mem_cons_of_mem _ hmem)) htail⟩

/-- The word for a star does not begin inside another one. -/
theorem pointerSuffix_isPrefix {name t : Text} (hne : name ≠ [])
    (h : name ++ pointerSuffix <+: pointerSuffix ++ t) : pointerSuffix <+: name := by
  by_contra hnot
  have hlength : name.length < pointerSuffix.length := by
    by_contra hle
    exact hnot (List.prefix_of_prefix_length_le (List.prefix_append _ _)
      ((List.prefix_append _ _).trans h) (Nat.le_of_not_lt hle))
  have hletter : pointerSuffix[name.length]? = some 'P' := by
    have hsame : (pointerSuffix ++ t)[name.length]? = pointerSuffix[name.length]? :=
      List.getElem?_append_left hlength
    obtain ⟨behind, hbehind⟩ := h
    rw [← hsame, ← hbehind, List.append_assoc, List.getElem?_append_right (Nat.le_refl _),
      Nat.sub_self]
    rfl
  -- Only its first letter is that one.
  have hfirst : ∀ i < pointerSuffix.length, pointerSuffix[i]? = some 'P' → i = 0 := by decide
  exact hne (List.length_eq_zero_iff.1 (hfirst _ hlength hletter))

/-- A name begins with that of a pointer exactly if the type reads so. -/
theorem applies_spellStars_iff {name s : Text} :
    Binding.Applies name (spellStars s) ↔ ReadsAsPointer name s := by
  refine ⟨fun h => ?_, ?_⟩
  · induction s generalizing name with
    | nil =>
      have hnil : name ++ pointerSuffix = [] := List.prefix_nil.1 h
      exact absurd (List.append_eq_nil_iff.1 hnil).2 (by decide)
    | cons c s ih =>
      unfold Binding.Applies at h
      by_cases hname : name = []
      · -- The pointer stands at the very beginning.
        subst hname
        refine ⟨[], c :: s, rfl, rfl, ?_⟩
        by_cases hc : c = '*'
        · exact .inl (by simp [hc])
        · rw [spellStars_cons_of_ne hc] at h
          obtain ⟨rfl, htail⟩ : 'P' = c ∧ "ointer".toList <+: spellStars s :=
            List.cons_prefix_cons.1 h
          have hrest := isPrefix_of_isPrefix_spellStars (by decide) htail
          exact .inr (List.cons_prefix_cons.2 ⟨rfl, hrest⟩)
      · by_cases hc : c = '*'
        · subst hc
          rw [spellStars_star_cons] at h
          obtain ⟨shorter, rfl⟩ := pointerSuffix_isPrefix hname h
          rw [List.append_assoc, List.prefix_append_right_inj] at h
          obtain ⟨front, rest, rfl, rfl, hrest⟩ := ih h
          exact ⟨'*' :: front, rest, rfl, rfl, hrest⟩
        · obtain ⟨a, shorter, rfl⟩ := List.exists_cons_of_ne_nil hname
          rw [spellStars_cons_of_ne hc] at h
          obtain ⟨rfl, htail⟩ := List.cons_prefix_cons.1 h
          obtain ⟨front, rest, rfl, rfl, hrest⟩ := ih htail
          exact ⟨a :: front, rest, rfl, spellStars_cons_of_ne hc front, hrest⟩
  · rintro ⟨front, rest, rfl, rfl, hrest⟩
    show spellStars front ++ pointerSuffix <+: spellStars (front ++ rest)
    rw [spellStars_append, List.prefix_append_right_inj]
    rcases hrest with ⟨behind, rfl⟩ | ⟨behind, rfl⟩
    · exact List.prefix_append _ _
    · rw [spellStars_append, spellStars_of_not_mem (by decide)]
      exact List.prefix_append _ _

/-! ### Types without a spelled-out pointer -/

/-- The squeezed type is a name followed by stars, and the name does not hold the word for a star. -/
def Unspelled (squeezed : Text) : Prop :=
  ∃ base n, squeezed = base ++ List.replicate n '*' ∧ '*' ∉ base ∧ ¬ pointerSuffix <:+: base

/-- Stars at the end of a text leave the word for a star at the end of its name. -/
theorem pointerSuffix_isSuffix {front stars : Text} (hne : stars ≠ [])
    (hstars : ∀ c ∈ stars, c = '*') : pointerSuffix <:+ spellStars (front ++ stars) := by
  rcases stars.eq_nil_or_concat' with rfl | ⟨stars, c, rfl⟩
  · exact absurd rfl hne
  · obtain rfl : c = '*' := hstars c (by simp)
    rw [← List.append_assoc, spellStars_append]
    exact List.suffix_append _ _

/-- A cut in front of a star comes behind the whole name, and in front of all stars if the text before
    the cut does not read as a pointer. -/
theorem eq_base_of_cut_star {base front rest : Text} {n : Nat} (hbase : '*' ∉ base)
    (hend : ¬ pointerSuffix <:+ spellStars front)
    (heq : base ++ List.replicate n '*' = front ++ '*' :: rest) : front = base := by
  rcases List.append_eq_append_iff.1 heq with ⟨stars, rfl, hstars⟩ | ⟨behind, rfl, hrest⟩
  · by_cases hne : stars = []
    · rw [hne, List.append_nil]
    · refine absurd (pointerSuffix_isSuffix hne fun c hc => ?_) hend
      exact List.eq_of_mem_replicate (hstars ▸ List.mem_append_left _ hc)
  · cases behind with
    | nil => rw [List.append_nil]
    | cons c behind =>
      obtain rfl : '*' = c := (List.cons.inj hrest).1
      exact absurd (List.mem_append_right _ List.mem_cons_self) hbase

/-- There is no cut in front of the word for a star. -/
theorem ne_cut_pointerSuffix {base front rest : Text} {n : Nat} (hword : ¬ pointerSuffix <:+: base) :
    base ++ List.replicate n '*' ≠ front ++ (pointerSuffix ++ rest) := by
  intro heq
  rw [← List.append_assoc] at heq
  rcases List.append_eq_append_iff.1 heq with ⟨stars, hfront, hstars⟩ | ⟨behind, rfl, -⟩
  · by_cases hne : stars = []
    · rw [hne, List.append_nil] at hfront
      exact hword ⟨front, [], by rw [List.append_nil, hfront]⟩
    · -- The word would have to end in a star.
      have hlast : stars.getLast? = pointerSuffix.getLast? := by
        rw [← List.getLast?_append_of_ne_nil base hne, ← hfront]
        exact List.getLast?_append_of_ne_nil front (by decide)
      have hmem : 'r' ∈ stars := List.mem_of_getLast? (hlast.trans (by decide))
      have hstar : 'r' = '*' := List.eq_of_mem_replicate (hstars ▸ List.mem_append_left _ hmem)
      exact absurd hstar (by decide)
  · exact hword ⟨front, behind, rfl⟩

/-- Where no pointer is spelled out, only pointers read as such. -/
theorem readsAsPointer_iff_pointerTo {name s : Text} (hs : Unspelled s) (hstar : '*' ∉ name)
    (hend : ¬ pointerSuffix <:+ name) : ReadsAsPointer name s ↔ PointerTo name s := by
  refine ⟨?_, ?_⟩
  · obtain ⟨base, n, rfl, hbase, hword⟩ := hs
    rintro ⟨front, rest, heq, rfl, ⟨behind, rfl⟩ | ⟨behind, rfl⟩⟩
    · obtain rfl := eq_base_of_cut_star hbase hend heq
      rw [spellStars_of_not_mem hbase]
      -- The star behind the cut is the first of them.
      cases n with
      | zero => exact absurd (List.append_cancel_left heq) (by simp)
      | succ n => exact ⟨n, rfl⟩
    · exact absurd heq (ne_cut_pointerSuffix hword)
  · rintro ⟨n, rfl⟩
    exact ⟨name, List.replicate (n + 1) '*', rfl, spellStars_of_not_mem hstar,
      .inl (List.prefix_append _ _)⟩

end ValueType

/-- No alias of the table holds a star or ends in the word for one. -/
def AliasTable.Unspelled (aliases : AliasTable) : Prop :=
  ∀ e ∈ aliases.entries, '*' ∉ e.1 ∧ ¬ ValueType.pointerSuffix <:+ e.1

namespace Binding

/-! ### Widened parameters -/

theorem not_applies {name target : Text} (h : 'P' ∉ target) : ¬ Applies name target := by
  intro happlies
  exact h (happlies.subset (List.mem_append_right _ (by decide)))

/-- An alias applies to the types that read as a pointer to it, those passed as strings apart. -/
theorem applies_target_iff {name type : Text} : Applies name (mapType type).target ↔
    Text.contains "char*".toList (ValueType.squeeze type) = false ∧
      ValueType.ReadsAsPointer name (ValueType.squeeze type) := by
  rw [← ValueType.applies_spellStars_iff]
  show Applies name (ValueType.classify (ValueType.squeeze type)).2 ↔ _
  -- A type with a name of its own is no pointer under either name.
  have hnamed : ∀ {s target : Text}, 'P' ∉ target → 'P' ∉ ValueType.spellStars s →
      (Applies name target ↔ Text.contains "char*".toList s = false ∧
        Applies name (ValueType.spellStars s)) :=
    fun htarget hs => iff_of_false (not_applies htarget) fun h => not_applies hs h.2
  unfold ValueType.classify
  split_ifs with hchar hbool hvoid hnumber
  · exact iff_of_false (not_applies (by decide)) fun h => absurd (hchar.symm.trans h.1) (by decide)
  · rw [hbool]
    exact hnamed (by decide) (by decide)
  · rw [hvoid]
    exact hnamed (by decide) (by decide)
  · rcases Bool.or_eq_true_iff.1 hnumber with h | h
    · rw [of_decide_eq_true h]
      exact hnamed (by decide) (by decide)
    · rw [of_decide_eq_true h]
      exact hnamed (by decide) (by decide)
  · exact (and_iff_right (Bool.eq_false_iff.2 hchar)).symm

/-- A type is widened exactly if some alias applies to it. -/
theorem widen_ne_iff {aliases : AliasTable} {target : Text} :
    widen aliases target ≠ target ↔ ∃ e ∈ aliases.entries, Applies e.1 target := by
  refine ⟨fun hne => ?_, fun happlies heq => ?_⟩
  · by_contra hnone
    exact hne (widen_of_not_applies fun e he happlies => hnone ⟨e, he, happlies⟩)
  · obtain ⟨e, -, rest, -, -, -, hwiden⟩ := widen_of_applies happlies
    -- The bar makes the widened type longer.
    have hlength := congrArg List.length (hwiden.symm.trans heq)
    have hbar : " | ".toList.length = 3 := by decide
    rw [List.length_append, List.length_append, hbar] at hlength
    omega

/-- **Widened parameters.**  A parameter is widened exactly if its type is not passed as a string and
    reads as a pointer to an alias.  Where neither the type nor the aliases spell a pointer out, these
    are the parameters whose type is an alias followed by stars. -/
theorem widened_iff_readsAsPointer {aliases : AliasTable} {d : Declaration} {p : BindingParameter}
    (hp : p ∈ (ofDeclaration aliases d).parameters) :
    (p.target ≠ p.mapping.target ↔
      Text.contains "char*".toList (ValueType.squeeze p.mapping.source) = false ∧
        ∃ e ∈ aliases.entries,
          ValueType.ReadsAsPointer e.1 (ValueType.squeeze p.mapping.source)) ∧
    (aliases.Unspelled → ValueType.Unspelled (ValueType.squeeze p.mapping.source) →
      (p.target ≠ p.mapping.target ↔
        Text.contains "char*".toList (ValueType.squeeze p.mapping.source) = false ∧
          ∃ e ∈ aliases.entries, ValueType.PointerTo e.1 (ValueType.squeeze p.mapping.source))) := by
  obtain ⟨q, -, rfl⟩ := List.mem_map.1 hp
  show (widen aliases (mapType q.type).target ≠ (mapType q.type).target ↔ _) ∧
    (_ → _ → (widen aliases (mapType q.type).target ≠ (mapType q.type).target ↔ _))
  have hwidened : widen aliases (mapType q.type).target ≠ (mapType q.type).target ↔
      Text.contains "char*".toList (ValueType.squeeze q.type) = false ∧
        ∃ e ∈ aliases.entries, ValueType.ReadsAsPointer e.1 (ValueType.squeeze q.type) := by
    rw [widen_ne_iff]
    refine ⟨?_, ?_⟩
    · rintro ⟨e, he, happlies⟩
      obtain ⟨hchar, hreads⟩ := applies_target_iff.1 happlies
      exact ⟨hchar, e, he, hreads⟩
    · rintro ⟨hchar, e, he, hreads⟩
      exact ⟨e, he, applies_target_iff.2 ⟨hchar, hreads⟩⟩
  refine ⟨hwidened, fun haliases htype => hwidened.trans (and_congr_right fun _ => ?_)⟩
  refine exists_congr fun e => and_congr_right fun he => ?_
  exact ValueType.readsAsPointer_iff_pointerTo htype (haliases e he).1 (haliases e he).2

/-- A pointer to a pointer to a const value, under the default aliases. -/
theorem widened_iff_readsAsPointer_twice :
    let aliases := ({} : ModuleSettings).constAliases
    let d : Declaration := ⟨"QTS_F".toList, "int ".toList, "JSValueConst **values".toList⟩
    let p := ofParameter aliases ⟨"values".toList, "JSValueConst **".toList⟩
    p ∈ (ofDeclaration aliases d).parameters ∧ aliases.Unspelled ∧
      ValueType.Unspelled (ValueType.squeeze p.mapping.source) ∧ p.target ≠ p.mapping.target := by
  intro aliases d p
  have hp : p ∈ (ofDeclaration aliases d).parameters := by decide
  have hletter : 'P' ∉ "JSValueConst".toList := by decide
  have haliases : aliases.Unspelled := by
    intro e he
    obtain rfl : e = ("JSValueConst".toList, "JSValue".toList) := List.mem_singleton.1 he
    exact ⟨by decide, fun h => hletter (h.subset (by decide))⟩
  have htype : ValueType.Unspelled (ValueType.squeeze p.mapping.source) :=
    ⟨"JSValueConst".toList, 2, by decide, by decide, fun h => hletter (h.subset (by decide))⟩
  refine ⟨hp, haliases, htype, ?_⟩
  refine ((widened_iff_readsAsPointer hp).2 haliases htype).2 ⟨by decide, ?_⟩
  exact ⟨("JSValueConst".toList, "JSValue".toList), by decide, 1, by decide⟩

/-- A table of const pointers is widened to a type that nobody declares, although there is no star in
    its C type. -/
theorem widened_table :
    ¬ ∀ (aliases : AliasTable) (d : Declaration), ∀ p ∈ (ofDeclaration aliases d).parameters,
      p.target ≠ p.mapping.target →
        ∃ e ∈ aliases.entries, ValueType.PointerTo e.1 (ValueType.squeeze p.mapping.source) := by
  intro h
  let aliases := ({} : ModuleSettings).constAliases
  let d : Declaration := ⟨"QTS_F".toList, "int ".toList, "JSValueConstPointerTable table".toList⟩
  let p := ofParameter aliases ⟨"table".toList, "JSValueConstPointerTable".toList⟩
  have hp : p ∈ (ofDeclaration aliases d).parameters := by decide
  have hwidened : p.target ≠ p.mapping.target := by decide
  obtain ⟨e, -, n, hstars⟩ := h aliases d p hp hwidened
  have hmem : '*' ∈ ValueType.squeeze p.mapping.source := by
    rw [hstars]
    exact List.mem_append_right _ (by simp)
  exact absurd hmem (by decide)

end Binding

end CInterface
