import CInterface.Proofs.Scanning
import CInterface.Toml.Document
import Mathlib.Data.List.Nodup

namespace CInterface.Toml

/-!
# TOML — every key occurs once

A document builds its tables piece by piece: from pairs under dotted keys, from headers and from
array headers, in any order, and inside values again.  Each way to add something looks first whether
the key is taken, so in no table of a document a key occurs twice.

* `Value.DistinctKeys`, `Draft.DistinctKeys` — in no table inside does a key occur twice.
* `Draft.distinctFields_modifyAt` — a change at the end of a path keeps keys distinct if it does so
  in the table where it happens.
* `yields_value` — the keys are distinct in every value that is read.
* `distinctEntries_parse?` — and in the tables of a whole document.
-/

/-- What holds of the content and of the default holds of the result. -/
theorem getD_induction {α : Type} {P : α → Prop} {o : Option α} {default : α} (h : ∀ a ∈ o, P a)
    (hdefault : P default) : P (o.getD default) := by
  cases o with
  | none => exact hdefault
  | some a => exact h a rfl

/-! ### Tables with distinct keys -/

/-- In no table inside the value does a key occur twice. -/
inductive Value.DistinctKeys : Value → Prop
  | string {t : Text} : DistinctKeys (.string t)
  | integer {n : Int} : DistinctKeys (.integer n)
  | float {x : Binary64} : DistinctKeys (.float x)
  | boolean {b : Bool} : DistinctKeys (.boolean b)
  | dateTime {t : Text} : DistinctKeys (.dateTime t)
  | array {items : List Value} (inside : ∀ v ∈ items, DistinctKeys v) : DistinctKeys (.array items)
  | table {entries : List (Text × Value)} (nodup : (entries.map Prod.fst).Nodup)
      (inside : ∀ e ∈ entries, DistinctKeys e.2) : DistinctKeys (.table entries)

/-- The entries of a table in which no key occurs twice, and neither inside its values. -/
def DistinctEntries (entries : List (Text × Value)) : Prop :=
  (entries.map Prod.fst).Nodup ∧ ∀ e ∈ entries, e.2.DistinctKeys

theorem Value.distinctKeys_table_iff {entries : List (Text × Value)} :
    (Value.table entries).DistinctKeys ↔ DistinctEntries entries := by
  constructor
  · rintro ⟨⟩
    exact ⟨‹_›, ‹_›⟩
  · rintro ⟨hnodup, hinside⟩
    exact .table hnodup hinside

namespace Draft

/-- In no table inside the draft does a key occur twice. -/
inductive DistinctKeys : Draft → Prop
  | value {v : Value} (inside : v.DistinctKeys) : DistinctKeys (.value v)
  | table {origin : Origin} {fields : Fields} (nodup : (fields.map Prod.fst).Nodup)
      (inside : ∀ f ∈ fields, DistinctKeys f.2) : DistinctKeys (.table origin fields)
  | tables {items : List Fields} (nodup : ∀ fields ∈ items, (fields.map Prod.fst).Nodup)
      (inside : ∀ fields ∈ items, ∀ f ∈ fields, DistinctKeys f.2) : DistinctKeys (.tables items)

/-- The fields of a table in which no key occurs twice, and neither inside its drafts. -/
def DistinctFields (fields : Fields) : Prop :=
  (fields.map Prod.fst).Nodup ∧ ∀ f ∈ fields, f.2.DistinctKeys

theorem distinctKeys_table_iff {origin : Origin} {fields : Fields} :
    (Draft.table origin fields).DistinctKeys ↔ DistinctFields fields := by
  constructor
  · rintro ⟨⟩
    exact ⟨‹_›, ‹_›⟩
  · rintro ⟨hnodup, hinside⟩
    exact .table hnodup hinside

theorem distinctKeys_tables_iff {items : List Fields} :
    (Draft.tables items).DistinctKeys ↔ ∀ fields ∈ items, DistinctFields fields := by
  constructor
  · rintro ⟨⟩ fields hmem
    rename_i hnodup hinside
    exact ⟨hnodup fields hmem, hinside fields hmem⟩
  · intro h
    exact .tables (fun fields hmem => (h fields hmem).1) fun fields hmem => (h fields hmem).2

/-! ### What becomes of drafts -/

theorem toEntries_eq_map (fields : Fields) :
    toEntries fields = fields.map fun f => (f.1, f.2.toValue) := by
  induction fields with
  | nil => simp [toEntries]
  | cons f fields ih => simp [toEntries, ih]

theorem toTables_eq_map (items : List Fields) :
    toTables items = items.map fun fields => .table (toEntries fields) := by
  induction items with
  | nil => simp [toTables]
  | cons fields items ih => simp [toTables, ih]

theorem map_fst_toEntries (fields : Fields) :
    (toEntries fields).map Prod.fst = fields.map Prod.fst := by
  rw [toEntries_eq_map, List.map_map]
  rfl

theorem DistinctKeys.toValue {d : Draft} (h : d.DistinctKeys) : d.toValue.DistinctKeys := by
  induction h with
  | value inside =>
    rw [Draft.toValue]
    exact inside
  | @table origin fields nodup _ ih =>
    rw [Draft.toValue]
    refine .table (by rwa [map_fst_toEntries]) ?_
    rw [toEntries_eq_map]
    exact List.forall_mem_map.2 ih
  | @tables items nodup _ ih =>
    rw [Draft.toValue, toTables_eq_map]
    refine .array (List.forall_mem_map.2 fun fields hmem => ?_)
    refine .table (by rw [map_fst_toEntries]; exact nodup fields hmem) ?_
    rw [toEntries_eq_map]
    exact List.forall_mem_map.2 (ih fields hmem)

theorem DistinctFields.toEntries {fields : Fields} (h : DistinctFields fields) :
    DistinctEntries (toEntries fields) := by
  have hvalue := ((@distinctKeys_table_iff .header fields).2 h).toValue
  rw [Draft.toValue] at hvalue
  exact Value.distinctKeys_table_iff.1 hvalue

/-! ### Adding to a table -/

section Fields

variable {fields : Fields} {key : Text} {d : Draft}

theorem distinctFields_nil : DistinctFields [] :=
  ⟨List.nodup_nil, by simp⟩

theorem DistinctFields.of_lookup (h : DistinctFields fields) (hlookup : fields.lookup key = some d) :
    d.DistinctKeys := by
  obtain ⟨front, behind, rfl, -⟩ := List.lookup_eq_some_iff.1 hlookup
  exact h.2 (key, d) (by simp)

theorem not_mem_keys_of_lookup (h : fields.lookup key = none) : key ∉ fields.map Prod.fst := by
  intro hmem
  obtain ⟨f, hf, rfl⟩ := List.mem_map.1 hmem
  simpa using List.lookup_eq_none_iff.1 h f hf

/-- A key that is not taken can be added. -/
theorem DistinctFields.concat (h : DistinctFields fields) (hkey : key ∉ fields.map Prod.fst)
    (hd : d.DistinctKeys) : DistinctFields (fields ++ [(key, d)]) := by
  constructor
  · rw [List.map_append, List.map_singleton]
    refine List.nodup_append.2 ⟨h.1, List.nodup_singleton key, fun k hk k' hk' heq => hkey ?_⟩
    obtain rfl : k' = key := List.mem_singleton.1 hk'
    exact heq ▸ hk
  · intro f hf
    rcases List.mem_append.1 hf with hf | hf
    · exact h.2 f hf
    · rw [List.mem_singleton.1 hf]
      exact hd

/-- Another draft under a key leaves the keys as they are. -/
theorem DistinctFields.setField (h : DistinctFields fields) (hd : d.DistinctKeys) :
    DistinctFields (setField key d fields) := by
  constructor
  · have hkeys : (Draft.setField key d fields).map Prod.fst = fields.map Prod.fst := by
      unfold Draft.setField
      rw [List.map_map]
      refine List.map_congr_left fun f _ => ?_
      by_cases hf : f.1 = key
      · simp [hf]
      · simp [hf]
    rw [hkeys]
    exact h.1
  · refine List.forall_mem_map.2 fun f hf => ?_
    split
    · exact hd
    · exact h.2 f hf

theorem DistinctFields.eraseField (h : DistinctFields fields) :
    DistinctFields (eraseField key fields) ∧ key ∉ (eraseField key fields).map Prod.fst := by
  refine ⟨⟨?_, fun f hf => h.2 f (List.mem_of_mem_filter hf)⟩, ?_⟩
  · exact h.1.sublist (List.filter_sublist.map Prod.fst)
  · intro hmem
    obtain ⟨f, hf, rfl⟩ := List.mem_map.1 hmem
    simpa using List.of_mem_filter hf

end Fields

/-! ### Changing a table at the end of a path -/

/-- A change of a table that keeps its keys distinct. -/
def KeepsDistinct (change : Origin → Fields → Option Fields) : Prop :=
  ∀ origin fields fields', DistinctFields fields → change origin fields = some fields' →
    DistinctFields fields'

/-- **A change at the end of a path keeps keys distinct**, if it does so where it happens. -/
theorem distinctFields_modifyAt {made : Origin} {change : Origin → Fields → Option Fields}
    (hchange : KeepsDistinct change) (path : List Text) :
    KeepsDistinct (modifyAt made change path) := by
  -- On the path: what it leads into has distinct keys, and one draft is put in its place.
  induction path with
  | nil => exact hchange
  | cons key path ih =>
    intro origin fields fields' h hmodify
    rw [modifyAt] at hmodify
    split at hmodify
    · next hlookup =>
      obtain ⟨inner, hinner, heq⟩ := Option.bind_eq_some_iff.1 hmodify
      obtain rfl := Option.some.inj heq
      have hdistinct := ih made [] inner distinctFields_nil hinner
      exact h.concat (not_mem_keys_of_lookup hlookup) (distinctKeys_table_iff.2 hdistinct)
    · exact absurd hmodify (by simp)
    · next items hlookup =>
      obtain ⟨inner, hinner, heq⟩ := Option.bind_eq_some_iff.1 hmodify
      obtain rfl := Option.some.inj heq
      have hitems := distinctKeys_tables_iff.1 (h.of_lookup hlookup)
      have hlast : DistinctFields (items.getLast?.getD []) :=
        getD_induction (fun last hl => hitems last (List.mem_of_getLast? hl)) distinctFields_nil
      have hdistinct := ih .header _ inner hlast hinner
      refine h.setField (distinctKeys_tables_iff.2 fun fields hmem => ?_)
      rcases List.mem_append.1 hmem with hmem | hmem
      · exact hitems fields ((List.dropLast_sublist items).subset hmem)
      · rw [List.mem_singleton.1 hmem]
        exact hdistinct
    · next origin' inner hlookup =>
      split at hmodify
      · exact absurd hmodify (by simp)
      · obtain ⟨inner', hinner, heq⟩ := Option.bind_eq_some_iff.1 hmodify
        obtain rfl := Option.some.inj heq
        have hinside := distinctKeys_table_iff.1 (h.of_lookup hlookup)
        exact h.setField (distinctKeys_table_iff.2 (ih origin' inner inner' hinside hinner))

/-! ### The ways to add to a document -/

theorem distinctFields_insertPair {fields fields' : Fields} {key : Key} {v : Value}
    (h : DistinctFields fields) (hv : v.DistinctKeys) (hinsert : insertPair fields key v = some fields') :
    DistinctFields fields' := by
  refine distinctFields_modifyAt ?_ key.path .header fields fields' h hinsert
  intro origin inner inner' hinner hchange
  dsimp only at hchange
  split at hchange
  · exact absurd hchange (by simp)
  · split at hchange
    · exact absurd hchange (by simp)
    · next hfree =>
      obtain rfl := Option.some.inj hchange
      have hlookup : inner.lookup key.name = none := Option.not_isSome_iff_eq_none.1 hfree
      exact hinner.concat (not_mem_keys_of_lookup hlookup) (.value hv)

theorem distinctFields_insertPairs {pairs : List (Key × Value)}
    (hpairs : ∀ p ∈ pairs, p.2.DistinctKeys) {fields fields' : Fields} (h : DistinctFields fields)
    (hinsert : insertPairs fields pairs = some fields') : DistinctFields fields' := by
  induction pairs generalizing fields with
  | nil =>
    obtain rfl : fields = fields' := Option.some.inj hinsert
    exact h
  | cons p pairs ih =>
    obtain ⟨hp, hrest⟩ := List.forall_mem_cons.1 hpairs
    rw [insertPairs, List.foldlM_cons] at hinsert
    obtain ⟨next, hnext, hinsert⟩ := Option.bind_eq_some_iff.1 hinsert
    exact ih hrest (distinctFields_insertPair h hp hnext) hinsert

section Headers

variable {root root' : Fields} {key : Key} {pairs : List (Key × Value)}
  (hpairs : ∀ p ∈ pairs, p.2.DistinctKeys) (h : DistinctFields root)

include hpairs h

theorem distinctFields_placeTable (hplace : placeTable root key pairs = some root') :
    DistinctFields root' := by
  refine distinctFields_modifyAt ?_ key.path .header root root' h hplace
  intro origin fields fields' hfields hchange
  dsimp only at hchange
  split at hchange
  · next hlookup =>
    obtain ⟨inner, hinner, heq⟩ := Option.bind_eq_some_iff.1 hchange
    obtain rfl := Option.some.inj heq
    have hdistinct := distinctFields_insertPairs hpairs distinctFields_nil hinner
    exact hfields.concat (not_mem_keys_of_lookup hlookup) (distinctKeys_table_iff.2 hdistinct)
  · next inner hlookup =>
    obtain ⟨inner', hinner, heq⟩ := Option.bind_eq_some_iff.1 hchange
    obtain rfl := Option.some.inj heq
    have hinside := distinctKeys_table_iff.1 (hfields.of_lookup hlookup)
    have hdistinct := distinctFields_insertPairs hpairs hinside hinner
    obtain ⟨herased, hkey⟩ := hfields.eraseField
    exact herased.concat hkey (distinctKeys_table_iff.2 hdistinct)
  · exact absurd hchange (by simp)

theorem distinctFields_appendTable (happend : appendTable root key pairs = some root') :
    DistinctFields root' := by
  refine distinctFields_modifyAt ?_ key.path .header root root' h happend
  intro origin fields fields' hfields hchange
  obtain ⟨inner, hinner, hchange⟩ := Option.bind_eq_some_iff.1 hchange
  have hdistinct := distinctFields_insertPairs hpairs distinctFields_nil hinner
  split at hchange
  · next hlookup =>
    obtain rfl := Option.some.inj hchange
    have htables : (Draft.tables [inner]).DistinctKeys :=
      distinctKeys_tables_iff.2 (by simpa using hdistinct)
    exact hfields.concat (not_mem_keys_of_lookup hlookup) htables
  · next items hlookup =>
    obtain rfl := Option.some.inj hchange
    have hitems := distinctKeys_tables_iff.1 (hfields.of_lookup hlookup)
    refine hfields.setField (distinctKeys_tables_iff.2 fun fields hmem => ?_)
    rcases List.mem_append.1 hmem with hmem | hmem
    · exact hitems fields hmem
    · rw [List.mem_singleton.1 hmem]
      exact hdistinct
  · exact absurd hchange (by simp)

end Headers

end Draft

/-! ### Values and statements -/

open Scan

theorem yields_scalar : Yields scalar Value.DistinctKeys := by
  refine .orElse (yields_bind fun _ => yields_pure .string) ?_
  refine .orElse (yields_bind fun _ => yields_pure .dateTime) ?_
  refine .orElse (yields_bind fun _ => yields_pure .float) ?_
  refine .orElse (yields_bind fun _ => yields_pure .integer) ?_
  exact .orElse (yields_bind fun _ => yields_pure .boolean) (yields_bind fun _ => yields_pure .boolean)

section Parts

variable {item : Scan Value} (hitem : Yields item Value.DistinctKeys)

include hitem

theorem yields_array : Yields (array item) Value.DistinctKeys := by
  have hpadded : Yields (do arraySpace; let v ← item; arraySpace; pure v) Value.DistinctKeys :=
    yields_bind fun _ => hitem.bind fun v hv => yields_bind fun _ => yields_pure hv
  refine yields_bind fun _ => (hpadded.separated ',').optional.bind fun items hitems => ?_
  have hinside : ∀ v ∈ items.getD [], v.DistinctKeys := getD_induction hitems (by simp)
  have hend : Yields (do
      arraySpace
      let _ ← char ']'
      pure (.array (items.getD []))) Value.DistinctKeys :=
    yields_bind fun _ => yields_bind fun _ => yields_pure (.array hinside)
  -- A comma behind the last item changes nothing.
  dsimp only
  split
  · exact yields_bind fun _ => hend
  · exact hend

/-- A table on one line is put together by the rules for pairs. -/
theorem yields_inlineTable : Yields (inlineTable item) Value.DistinctKeys := by
  have hpair : Yields (do
      let k ← key
      let _ ← char '='
      blanks
      let v ← item
      blanks
      pure (k, v)) fun p => p.2.DistinctKeys :=
    yields_bind fun _ => yields_bind fun _ => yields_bind fun _ => hitem.bind fun v hv =>
      yields_bind fun _ => yields_pure hv
  refine yields_bind fun _ => (hpair.separated ',').optional.bind fun pairs hpairs => ?_
  refine yields_bind fun _ => yields_bind fun _ => ?_
  have hinside : ∀ p ∈ pairs.getD [], p.2.DistinctKeys := getD_induction hpairs (by simp)
  split
  · next fields hinsert =>
    have hdistinct := Draft.distinctFields_insertPairs hinside Draft.distinctFields_nil hinsert
    exact yields_pure (Value.distinctKeys_table_iff.2 hdistinct.toEntries)
  · exact yields_failure

end Parts

/-- **In every value that is read keys are distinct**, however deep it is. -/
theorem yields_value (depth : Nat) : Yields (value depth) Value.DistinctKeys := by
  induction depth with
  | zero => exact yields_scalar
  | succ depth ih => exact yields_scalar.orElse ((yields_array ih).orElse (yields_inlineTable ih))

/-- A statement whose value, if it has one, has distinct keys. -/
def Statement.DistinctKeys : Statement → Prop
  | .header _ => True
  | .arrayHeader _ => True
  | .pair _ v => v.DistinctKeys

theorem yields_statement : Yields statement Statement.DistinctKeys := by
  refine .orElse ?_ (.orElse ?_ ?_)
  · exact yields_bind fun _ => yields_bind fun _ => yields_bind fun _ => yields_bind fun _ =>
      yields_pure trivial
  · exact yields_bind fun _ => yields_bind fun _ => yields_bind fun _ => yields_bind fun _ =>
      yields_pure trivial
  · exact yields_bind fun _ => yields_bind fun _ => yields_bind fun _ =>
      (yields_value depthLimit).bind fun v hv => yields_bind fun _ => yields_pure hv

theorem yields_statements :
    Yields statements fun statements => ∀ s ∈ statements, s.DistinctKeys := by
  have hline : Yields documentLine fun line => ∀ s ∈ line, s.DistinctKeys := by
    have hsome : Yields (some <$> statement) fun line => ∀ s ∈ line, s.DistinctKeys :=
      yields_statement.map fun s hs s' hs' => Option.mem_some_iff.1 hs' ▸ hs
    refine Yields.bind (.orElse ?_ (.orElse ?_ hsome)) fun line hline =>
      yields_bind fun _ => yields_pure hline
    · exact yields_bind fun _ => yields_bind fun _ => yields_pure (by simp)
    · exact yields_bind fun _ => yields_pure (by simp)
  refine yields_bind fun _ => yields_bind fun _ => hline.repeated.bind fun lines hlines => ?_
  refine yields_bind fun finished => ?_
  split
  · refine yields_pure fun s hs => ?_
    obtain ⟨line, hmem, heq⟩ := List.mem_filterMap.1 hs
    exact hlines line hmem s heq
  · exact yields_failure

/-! ### Whole documents -/

section Statements

variable {statements : List Statement} (hstatements : ∀ s ∈ statements, s.DistinctKeys)

include hstatements

theorem distinctKeys_splitPairs : ∀ p ∈ (splitPairs statements).1, p.2.DistinctKeys := by
  fun_induction splitPairs statements with
  | case1 k v rest pairs others hsplit ih =>
    obtain ⟨hv, hrest⟩ := List.forall_mem_cons.1 hstatements
    rw [hsplit] at ih
    exact List.forall_mem_cons.2 ⟨hv, ih hrest⟩
  | case2 => simp

/-- Each section keeps the keys distinct, so all of them do. -/
theorem distinctFields_addSections {root root' : Fields} (h : Draft.DistinctFields root)
    (hadd : addSections root statements = some root') : Draft.DistinctFields root' := by
  induction statements generalizing root with
  | nil =>
    obtain rfl : root = root' := Option.some.inj hadd
    exact h
  | cons s rest ih =>
    obtain ⟨-, hrest⟩ := List.forall_mem_cons.1 hstatements
    have hpairs := distinctKeys_splitPairs hrest
    cases s with
    | pair k v => exact ih hrest h hadd
    | header k =>
      obtain ⟨next, hnext, hadd⟩ := Option.bind_eq_some_iff.1 hadd
      exact ih hrest (Draft.distinctFields_placeTable hpairs h hnext) hadd
    | arrayHeader k =>
      obtain ⟨next, hnext, hadd⟩ := Option.bind_eq_some_iff.1 hadd
      exact ih hrest (Draft.distinctFields_appendTable hpairs h hnext) hadd

end Statements

/-- **In no table of a document does a key occur twice.** -/
theorem distinctEntries_parse? {t : Text} {entries : List (Text × Value)}
    (h : parse? t = some entries) : DistinctEntries entries := by
  obtain ⟨⟨statements, rest⟩, hread, hbuild⟩ := Option.bind_eq_some_iff.1 h
  have hstatements := yields_statements t statements rest hread
  obtain ⟨root, hroot, hbuild⟩ := Option.bind_eq_some_iff.1 hbuild
  obtain ⟨root', hroot', heq⟩ := Option.bind_eq_some_iff.1 hbuild
  obtain rfl := Option.some.inj heq
  have hpairs := Draft.distinctFields_insertPairs (distinctKeys_splitPairs hstatements)
    Draft.distinctFields_nil hroot
  exact (distinctFields_addSections hstatements hpairs hroot').toEntries

end CInterface.Toml
