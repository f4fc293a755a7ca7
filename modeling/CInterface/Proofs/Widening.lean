import CInterface.Proofs.AliasOrder
import CInterface.Proofs.TypeMapping

namespace CInterface

/-!
# Bindings — widened types

The type of a parameter is widened by an alias when its name begins with that of a pointer to the
alias.

* `Binding.Applies` — the name begins with that of a pointer to the alias.
* `Binding.widen_of_applies` — of the aliases that apply, the shortest one widens the type.
* `Binding.widen_by_shortest` — that alias does not depend on the order of the table.
-/

namespace Binding

/-! ### The alias that widens a type -/

/-- The name of a type begins with that of a pointer to the alias. -/
def Applies (name target : Text) : Prop :=
  name ++ ValueType.pointerSuffix <+: target

theorem applies_iff {name target : Text} : Applies name target ↔
    ∃ rest, target = name ++ rest ∧ ValueType.pointerSuffix <+: rest := by
  refine ⟨?_, ?_⟩
  · rintro ⟨behind, rfl⟩
    exact ⟨ValueType.pointerSuffix ++ behind, List.append_assoc _ _ _, List.prefix_append _ _⟩
  · rintro ⟨rest, rfl, hrest⟩
    exact (List.prefix_append_right_inj name).2 hrest

theorem widenedBy?_eq_some_iff {target wider : Text} {e : Text × Text} :
    widenedBy? target e = some wider ↔
      ∃ rest, target = e.1 ++ rest ∧ ValueType.pointerSuffix <+: rest ∧ wider = e.2 ++ rest := by
  unfold widenedBy?
  split
  · next hdrop =>
    refine ⟨fun h => absurd h (by simp), ?_⟩
    rintro ⟨rest, heq, -⟩
    rw [Text.dropStart?_eq_some_iff.2 heq] at hdrop
    exact absurd hdrop (by simp)
  · next rest hdrop =>
    have heq := Text.dropStart?_eq_some_iff.1 hdrop
    rw [Option.ite_none_right_eq_some, Text.startsWith, List.isPrefixOf_iff_prefix]
    refine ⟨?_, ?_⟩
    · rintro ⟨hpointer, hwider⟩
      exact ⟨rest, heq, hpointer, (Option.some.inj hwider).symm⟩
    · rintro ⟨other, hother, hpointer, rfl⟩
      obtain rfl : rest = other := List.append_cancel_left (heq.symm.trans hother)
      exact ⟨hpointer, rfl⟩

theorem widenedBy?_eq_none_iff {target : Text} {e : Text × Text} :
    widenedBy? target e = none ↔ ¬ Applies e.1 target := by
  rw [applies_iff, Option.eq_none_iff_forall_ne_some]
  refine ⟨?_, ?_⟩
  · rintro h ⟨rest, heq, hpointer⟩
    exact h _ (widenedBy?_eq_some_iff.2 ⟨rest, heq, hpointer, rfl⟩)
  · intro h wider hwider
    obtain ⟨rest, heq, hpointer, -⟩ := widenedBy?_eq_some_iff.1 hwider
    exact h ⟨rest, heq, hpointer⟩

variable {aliases : AliasTable} {target : Text}

theorem widen_of_not_applies (h : ∀ e ∈ aliases.entries, ¬ Applies e.1 target) :
    widen aliases target = target := by
  have hnone : aliases.entries.findSome? (widenedBy? target) = none :=
    List.findSome?_eq_none_iff.2 fun e he => widenedBy?_eq_none_iff.2 (h e he)
  unfold widen
  rw [hnone]

/-- Of two aliases that apply to one type the smaller is the beginning of the other. -/
theorem Applies.length_lt {a b : Text} (ha : Applies a target) (hb : Applies b target)
    (hlt : a < b) : a.length < b.length := by
  have hbegins : ∀ {name : Text}, Applies name target → name <+: target :=
    fun h => (List.prefix_append _ _).trans h
  by_contra hlength
  -- Otherwise `b` is the beginning of `a`, and comes first.
  have hfirst : b <+: a :=
    List.prefix_of_prefix_length_le (hbegins hb) (hbegins ha) (Nat.le_of_not_lt hlength)
  exact hfirst.le hlt

/-- If aliases apply, then the shortest of them widens the type. -/
theorem widen_of_applies (h : ∃ e ∈ aliases.entries, Applies e.1 target) :
    ∃ e ∈ aliases.entries, ∃ rest, target = e.1 ++ rest ∧ ValueType.pointerSuffix <+: rest ∧
      (∀ o ∈ aliases.entries, Applies o.1 target → o = e ∨ e.1.length < o.1.length) ∧
      widen aliases target = e.2 ++ rest ++ " | ".toList ++ target := by
  obtain ⟨wider, hfind⟩ : ∃ wider, aliases.entries.findSome? (widenedBy? target) = some wider := by
    rw [← Option.ne_none_iff_exists', Ne, List.findSome?_eq_none_iff]
    obtain ⟨e, he, happlies⟩ := h
    intro hnone
    exact widenedBy?_eq_none_iff.1 (hnone e he) happlies
  obtain ⟨front, e, behind, hentries, he, hfront⟩ := List.findSome?_eq_some_iff.1 hfind
  obtain ⟨rest, heq, hpointer, rfl⟩ := widenedBy?_eq_some_iff.1 he
  refine ⟨e, by simp [hentries], rest, heq, hpointer, fun o ho happlies => ?_, ?_⟩
  · rw [hentries, List.mem_append, List.mem_cons] at ho
    rcases ho with ho | rfl | ho
    -- An alias in front of the first one that applies does not apply.
    · exact absurd happlies (widenedBy?_eq_none_iff.1 (hfront o ho))
    · exact .inl rfl
    · have hlt : e.1 < o.1 := by
        have hincreasing := aliases.increasing
        rw [hentries] at hincreasing
        exact (List.pairwise_cons.1 (List.pairwise_append.1 hincreasing).2.1).1 o ho
      exact .inr ((applies_iff.2 ⟨rest, heq, hpointer⟩).length_lt happlies hlt)
  · unfold widen
    rw [hfind]

/-- **Widening aliases.**  If the name of a type begins with that of a pointer to some alias, then it
    is widened by the shortest such alias, of which there is only one; else it stays as it is.  The
    aliases are tried in the order of their bytes, and the table is the same in whatever order its
    entries are given. -/
theorem widen_by_shortest (aliases : AliasTable) (target : Text) :
    ((∃ e ∈ aliases.entries, e.1 ++ ValueType.pointerSuffix <+: target) →
      ∃ e ∈ aliases.entries, ∃ rest, target = e.1 ++ rest ∧ ValueType.pointerSuffix <+: rest ∧
        (∀ o ∈ aliases.entries, o.1 ++ ValueType.pointerSuffix <+: target →
          o = e ∨ e.1.length < o.1.length) ∧
        widen aliases target = e.2 ++ rest ++ " | ".toList ++ target) ∧
    ((¬ ∃ e ∈ aliases.entries, e.1 ++ ValueType.pointerSuffix <+: target) →
      widen aliases target = target) ∧
    (∀ pairs : List (Text × Text), (pairs.map Prod.fst).Nodup →
      (AliasTable.ofList pairs = aliases ↔ pairs.Perm aliases.entries)) ∧
    aliases.entries.Pairwise fun a b => Text.utf8Bytes a.1 < Text.utf8Bytes b.1 := by
  refine ⟨widen_of_applies, fun h => ?_, fun pairs hkeys => AliasTable.ofList_eq_iff hkeys,
    aliases.pairwise_utf8Bytes⟩
  exact widen_of_not_applies fun e he happlies => h ⟨e, he, happlies⟩

/-- Two aliases that both apply, listed the longer one first, and a type to which neither does. -/
theorem widen_by_shortest_nested :
    let pairs := [("APointer".toList, "C".toList), ("A".toList, "B".toList)]
    let aliases := AliasTable.ofList pairs.reverse
    let target := "APointerPointer".toList
    (∃ e ∈ aliases.entries, e.1 ++ ValueType.pointerSuffix <+: target) ∧
      (∃ e ∈ aliases.entries, ∃ rest, target = e.1 ++ rest ∧ ValueType.pointerSuffix <+: rest ∧
        (∀ o ∈ aliases.entries, o.1 ++ ValueType.pointerSuffix <+: target →
          o = e ∨ e.1.length < o.1.length) ∧
        widen aliases target = e.2 ++ rest ++ " | ".toList ++ target) ∧
      (¬ ∃ e ∈ aliases.entries, e.1 ++ ValueType.pointerSuffix <+: "JSValue".toList) ∧
      widen aliases "JSValue".toList = "JSValue".toList ∧
      (pairs.map Prod.fst).Nodup ∧ AliasTable.ofList pairs = aliases := by
  intro pairs aliases target
  obtain ⟨hwiden, -, horder, -⟩ := widen_by_shortest aliases target
  have happlies : ∃ e ∈ aliases.entries, e.1 ++ ValueType.pointerSuffix <+: target :=
    ⟨("A".toList, "B".toList), by decide, by decide⟩
  have hother : ¬ ∃ e ∈ aliases.entries, e.1 ++ ValueType.pointerSuffix <+: "JSValue".toList := by
    decide
  have hkeys : (pairs.map Prod.fst).Nodup := by decide
  exact ⟨happlies, hwiden happlies, hother, (widen_by_shortest aliases _).2.1 hother, hkeys,
    (horder pairs hkeys).2 (by decide)⟩

end Binding

end CInterface
