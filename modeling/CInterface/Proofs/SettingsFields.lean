import CInterface.Generation
import CInterface.Proofs.PathResolution
import CInterface.Proofs.SettingsValues
import Mathlib.Data.List.Nodup

namespace CInterface

/-!
# Settings — field by field

A document sets the fields of the settings one after the other, in its own order, and the tables
`interface` and `ffi` may be spelled in every form that TOML has.  None of this matters for the
result: a field is what the document says under its name and else the default.

* `Settings.Fits` — a document has declared fields only, each with a value of its type.
* `Settings.GivenBy` — each field is what the document says for it, or the default.
* `SettingsField.takes_assignEntries` — a run over entries sets a field at most once.
* `Settings.load_field_by_field` — the settings in a file are loaded exactly if its document fits,
  and they are given by the document.
-/

open Toml (Value DistinctEntries)
open Workspace (bind_eq_ok_iff)

/-! ### Documents that fit -/

/-- The types of fields. -/
inductive FieldType
  | string
  | strings
  | aliases
  | boolean
  deriving Repr, DecidableEq

/-- The values of a type. -/
def FieldType.Has : FieldType → Value → Prop
  | string, v => ∃ t, v.IsText t
  | strings, v => ∃ ts, v.IsTexts ts
  | aliases, v => ∃ pairs, v.IsPairs pairs
  | boolean, v => ∃ b, v.IsFlag b

/-- The declared fields of the interface settings, with their types. -/
def InterfaceSettings.declared : List (Text × FieldType) :=
  [("symbol_prefix".toList, .string), ("linker_prefix".toList, .string),
    ("runtime_symbols".toList, .strings)]

/-- The declared fields of the module settings, with their types. -/
def ModuleSettings.declared : List (Text × FieldType) :=
  [("class_name".toList, .string), ("module_type".toList, .string),
    ("async_class_name".toList, .string), ("async_module_type".toList, .string),
    ("module_import".toList, .string), ("const_aliases".toList, .aliases),
    ("export_types".toList, .boolean)]

/-- The declared tables, with their fields. -/
def Settings.declared : List (Text × List (Text × FieldType)) :=
  [("interface".toList, InterfaceSettings.declared), ("ffi".toList, ModuleSettings.declared)]

/-- The fields of a table are declared, and their values have the declared types. -/
def FitsFields (declared : List (Text × FieldType)) (fields : List (Text × Value)) : Prop :=
  ∀ f ∈ fields, ∃ type, (f.1, type) ∈ declared ∧ type.Has f.2

/-- What stands under the names of tables are tables. -/
def Settings.Tabular (entries : List (Text × Value)) : Prop :=
  ∀ e ∈ entries, e.1 = "interface".toList ∨ e.1 = "ffi".toList → ∃ fields, e.2 = .table fields

/-- The entries of a document are declared tables, and these have declared fields only, each with a
    value of its type. -/
def Settings.Fits (entries : List (Text × Value)) : Prop :=
  ∀ e ∈ entries, ∃ declared fields,
    (e.1, declared) ∈ Settings.declared ∧ e.2 = .table fields ∧ FitsFields declared fields

/-! ### Settings that a document gives -/

/-- A setting is what the value says, if there is one, and else the default.  Lists and tables are no
    exception: a value replaces the default and is never merged with it. -/
def Takes {α : Type} (means : Value → α → Prop) (default setting : α) : Option Value → Prop
  | none => setting = default
  | some v => means v setting

/-- Each field is what the value under its name says, and else as in `base`. -/
structure InterfaceSettings.GivenBy (s base : InterfaceSettings) (value? : Text → Option Value) :
    Prop where
  symbolPrefix :
    Takes Value.IsText base.symbolPrefix s.symbolPrefix (value? "symbol_prefix".toList)
  linkerPrefix :
    Takes Value.IsText base.linkerPrefix s.linkerPrefix (value? "linker_prefix".toList)
  runtimeSymbols :
    Takes Value.IsTexts base.runtimeSymbols s.runtimeSymbols (value? "runtime_symbols".toList)

/-- Each field is what the value under its name says, and else as in `base`. -/
structure ModuleSettings.GivenBy (s base : ModuleSettings) (value? : Text → Option Value) :
    Prop where
  className : Takes Value.IsText base.className s.className (value? "class_name".toList)
  moduleType : Takes Value.IsText base.moduleType s.moduleType (value? "module_type".toList)
  asyncClassName :
    Takes Value.IsText base.asyncClassName s.asyncClassName (value? "async_class_name".toList)
  asyncModuleType :
    Takes Value.IsText base.asyncModuleType s.asyncModuleType (value? "async_module_type".toList)
  moduleImport : Takes Value.IsText base.moduleImport s.moduleImport (value? "module_import".toList)
  constAliases :
    Takes Value.IsAliases base.constAliases s.constAliases (value? "const_aliases".toList)
  exportTypes : Takes Value.IsFlag base.exportTypes s.exportTypes (value? "export_types".toList)

/-- The entries of the table under a key; a table that is missing has none. -/
def Toml.tableAt (entries : List (Text × Value)) (key : Text) : List (Text × Value) :=
  match entries.lookup key with
  | some (.table fields) => fields
  | _ => []

/-- Each field is what the document says under its name in its table, and else the default. -/
structure Settings.GivenBy (s : Settings) (entries : List (Text × Value)) : Prop where
  interface : s.interface.GivenBy {} ((Toml.tableAt entries "interface".toList).lookup ·)
  ffi : s.ffi.GivenBy {} ((Toml.tableAt entries "ffi".toList).lookup ·)

/-! ### A document gives one settings record -/

theorem Takes.unique {α : Type} {means : Value → α → Prop} {default x y : α} {v? : Option Value}
    (h : Takes means default x v?) (h' : Takes means default y v?)
    (hmeans : ∀ {v x y}, means v x → means v y → x = y) : x = y := by
  cases v? with
  | none => exact Eq.trans h (Eq.symm h')
  | some v => exact hmeans h h'

theorem InterfaceSettings.GivenBy.unique {s s' base : InterfaceSettings}
    {value? : Text → Option Value} (h : s.GivenBy base value?) (h' : s'.GivenBy base value?) :
    s = s' := by
  obtain ⟨⟩ := s
  obtain ⟨⟩ := s'
  rw [InterfaceSettings.mk.injEq]
  exact ⟨h.symbolPrefix.unique h'.symbolPrefix Value.IsText.unique,
    h.linkerPrefix.unique h'.linkerPrefix Value.IsText.unique,
    h.runtimeSymbols.unique h'.runtimeSymbols Value.IsTexts.unique⟩

theorem ModuleSettings.GivenBy.unique {s s' base : ModuleSettings} {value? : Text → Option Value}
    (h : s.GivenBy base value?) (h' : s'.GivenBy base value?) : s = s' := by
  obtain ⟨⟩ := s
  obtain ⟨⟩ := s'
  rw [ModuleSettings.mk.injEq]
  exact ⟨h.className.unique h'.className Value.IsText.unique,
    h.moduleType.unique h'.moduleType Value.IsText.unique,
    h.asyncClassName.unique h'.asyncClassName Value.IsText.unique,
    h.asyncModuleType.unique h'.asyncModuleType Value.IsText.unique,
    h.moduleImport.unique h'.moduleImport Value.IsText.unique,
    h.constAliases.unique h'.constAliases Value.IsAliases.unique,
    h.exportTypes.unique h'.exportTypes Value.IsFlag.unique⟩

theorem Settings.GivenBy.unique {s s' : Settings} {entries : List (Text × Value)}
    (h : s.GivenBy entries) (h' : s'.GivenBy entries) : s = s' := by
  obtain ⟨⟩ := s
  obtain ⟨⟩ := s'
  rw [Settings.mk.injEq]
  exact ⟨h.interface.unique h'.interface, h.ffi.unique h'.ffi⟩

/-! ### Runs over entries -/

namespace SettingsField

variable {σ : Type} {fields : List (SettingsField σ)} {entries : List (Text × Value)}

/-- The field that is set is the one with the name. -/
theorem assignByName_eq_ok_iff (hnames : (fields.map (·.name)).Nodup) {s s' : σ} {name : Text}
    {v : Value} :
    assignByName fields s name v = .ok s' ↔
      ∃ f ∈ fields, f.name = name ∧ f.assign s v = .ok s' := by
  unfold assignByName
  constructor
  · intro h
    split at h
    · next f hfind =>
      exact ⟨f, List.mem_of_find?_eq_some hfind, by simpa using List.find?_some hfind, h⟩
    · exact absurd h (by simp)
  · rintro ⟨f, hmem, rfl, h⟩
    split
    · next g hfind =>
      have hname : g.name = f.name := by simpa using List.find?_some hfind
      obtain rfl := List.inj_on_of_nodup_map hnames (List.mem_of_find?_eq_some hfind) hmem hname
      exact h
    · next hnone =>
      have hne := List.find?_eq_none.1 hnone f hmem
      simp at hne

theorem assignEntries_cons_eq_ok_iff {s s' : σ} {e : Text × Value} :
    assignEntries fields s (e :: entries) = .ok s' ↔
      ∃ s₁, assignByName fields s e.1 e.2 = .ok s₁ ∧ assignEntries fields s₁ entries = .ok s' := by
  unfold assignEntries
  rw [List.foldlM_cons, bind_eq_ok_iff]

/-- If it depends on the entry alone whether it can be assigned, a run succeeds exactly if each of
    its entries can. -/
theorem exists_assignEntries_iff {Fit : Text × Value → Prop}
    (hstep : ∀ e ∈ entries, ∀ s, (∃ s', assignByName fields s e.1 e.2 = .ok s') ↔ Fit e) (s : σ) :
    (∃ s', assignEntries fields s entries = .ok s') ↔ ∀ e ∈ entries, Fit e := by
  induction entries generalizing s with
  | nil => simp [assignEntries, pure, Except.pure]
  | cons e entries ih =>
    obtain ⟨hfirst, hrest⟩ := List.forall_mem_cons.1 hstep
    rw [List.forall_mem_cons, ← hfirst s]
    simp only [assignEntries_cons_eq_ok_iff]
    constructor
    · rintro ⟨s', s₁, hs₁, hs'⟩
      exact ⟨⟨s₁, hs₁⟩, (ih hrest s₁).1 ⟨s', hs'⟩⟩
    · rintro ⟨⟨s₁, hs₁⟩, hfit⟩
      obtain ⟨s', hs'⟩ := (ih hrest s₁).2 hfit
      exact ⟨s', s₁, hs₁, hs'⟩

/-- **A run sets a field at most once**: to what the entry under its name says, starting from what
    the field was before the run. -/
theorem takes_assignEntries {α : Type} (get : σ → α) (means : α → Value → α → Prop) {name : Text}
    (hkeys : (entries.map Prod.fst).Nodup)
    (hstep : ∀ e ∈ entries, ∀ s s', assignByName fields s e.1 e.2 = .ok s' →
      Takes (means (get s)) (get s) (get s') ([e].lookup name))
    {s s' : σ} (h : assignEntries fields s entries = .ok s') :
    Takes (means (get s)) (get s) (get s') (entries.lookup name) := by
  induction entries generalizing s with
  | nil =>
    obtain rfl : s = s' := Except.ok.inj h
    exact rfl
  | cons e entries ih =>
    obtain ⟨key, v⟩ := e
    obtain ⟨hkey, hkeys⟩ := List.nodup_cons.1 hkeys
    obtain ⟨hfirst, hrest⟩ := List.forall_mem_cons.1 hstep
    obtain ⟨s₁, hs₁, hs'⟩ := assignEntries_cons_eq_ok_iff.1 h
    have htakes := hfirst s s₁ hs₁
    have hlater := ih hkeys hrest hs'
    by_cases hname : name = key
    · -- No later entry has the name of this one, so what it sets stays.
      subst hname
      have hnone : entries.lookup name = none :=
        List.lookup_eq_none_iff.2 fun e he => by
          simpa using fun hsame : name = e.1 => hkey (List.mem_map.2 ⟨e, he, hsame.symm⟩)
      rw [hnone] at hlater
      have hkept : get s' = get s₁ := hlater
      rw [hkept, List.lookup_cons_self]
      rwa [List.lookup_cons_self] at htakes
    · -- The entry leaves the field alone, so the rest starts from the same.
      have hother : (name == key) = false := by simpa using hname
      rw [List.lookup_cons, hother] at htakes ⊢
      have hkept : get s₁ = get s := htakes
      rwa [hkept] at hlater

end SettingsField

/-! ### The fields of the records -/

open SettingsField

/-- What one entry can do to the interface settings. -/
theorem InterfaceSettings.assignByName_iff {s s' : InterfaceSettings} {name : Text} {v : Value} :
    assignByName fields s name v = .ok s' ↔
      (name = "symbol_prefix".toList ∧ ∃ t, v.IsText t ∧ s' = { s with symbolPrefix := t }) ∨
      (name = "linker_prefix".toList ∧ ∃ t, v.IsText t ∧ s' = { s with linkerPrefix := t }) ∨
      (name = "runtime_symbols".toList ∧
        ∃ ts, v.IsTexts ts ∧ s' = { s with runtimeSymbols := ts }) := by
  rw [assignByName_eq_ok_iff (by decide)]
  simp [fields, bind_eq_ok_iff, Value.toText_eq_ok_iff, Value.toTexts_eq_ok_iff, pure, Except.pure,
    @eq_comm _ name, @eq_comm _ s']

/-- What one entry can do to the module settings. -/
theorem ModuleSettings.assignByName_iff {s s' : ModuleSettings} {name : Text} {v : Value}
    (hkeys : v.DistinctKeys) (hfree : v.DateTimeFree) :
    assignByName fields s name v = .ok s' ↔
      (name = "class_name".toList ∧ ∃ t, v.IsText t ∧ s' = { s with className := t }) ∨
      (name = "module_type".toList ∧ ∃ t, v.IsText t ∧ s' = { s with moduleType := t }) ∨
      (name = "async_class_name".toList ∧
        ∃ t, v.IsText t ∧ s' = { s with asyncClassName := t }) ∨
      (name = "async_module_type".toList ∧
        ∃ t, v.IsText t ∧ s' = { s with asyncModuleType := t }) ∨
      (name = "module_import".toList ∧ ∃ t, v.IsText t ∧ s' = { s with moduleImport := t }) ∨
      (name = "const_aliases".toList ∧
        ∃ table, v.IsAliases table ∧ s' = { s with constAliases := table }) ∨
      (name = "export_types".toList ∧ ∃ b, v.IsFlag b ∧ s' = { s with exportTypes := b }) := by
  rw [assignByName_eq_ok_iff (by decide)]
  simp [fields, bind_eq_ok_iff, Value.toText_eq_ok_iff, Value.toBool_eq_ok_iff,
    Value.toAliases_eq_ok_iff hkeys hfree, pure, Except.pure, @eq_comm _ name, @eq_comm _ s']

/-- One entry sets one field. -/
theorem InterfaceSettings.givenBy_assignByName {s s' : InterfaceSettings} {e : Text × Value}
    (h : assignByName fields s e.1 e.2 = .ok s') : s'.GivenBy s ([e].lookup ·) := by
  obtain ⟨name, v⟩ := e
  rcases assignByName_iff.1 h with ⟨rfl, t, ht, rfl⟩ | ⟨rfl, t, ht, rfl⟩ | ⟨rfl, ts, hts, rfl⟩ <;>
    constructor <;> first | assumption | rfl

/-- One entry sets one field. -/
theorem ModuleSettings.givenBy_assignByName {s s' : ModuleSettings} {e : Text × Value}
    (hkeys : e.2.DistinctKeys) (hfree : e.2.DateTimeFree)
    (h : assignByName fields s e.1 e.2 = .ok s') : s'.GivenBy s ([e].lookup ·) := by
  obtain ⟨name, v⟩ := e
  rcases (assignByName_iff hkeys hfree).1 h with ⟨rfl, t, ht, rfl⟩ | ⟨rfl, t, ht, rfl⟩ |
    ⟨rfl, t, ht, rfl⟩ | ⟨rfl, t, ht, rfl⟩ | ⟨rfl, t, ht, rfl⟩ | ⟨rfl, table, ht, rfl⟩ |
    ⟨rfl, b, hb, rfl⟩ <;>
    constructor <;> first | assumption | rfl

/-- Tables of strings are those that say an alias table. -/
theorem FieldType.has_aliases_iff {v : Value} (hkeys : v.DistinctKeys) :
    aliases.Has v ↔ ∃ table, v.IsAliases table := by
  constructor
  · rintro ⟨pairs, hpairs⟩
    exact ⟨_, pairs, hpairs, (AliasTable.ofList_eq_iff (hpairs.nodup hkeys)).1 rfl⟩
  · rintro ⟨table, pairs, hpairs, -⟩
    exact ⟨pairs, hpairs⟩

theorem InterfaceSettings.exists_assignByName_iff {s : InterfaceSettings} {name : Text}
    {v : Value} :
    (∃ s', assignByName fields s name v = .ok s') ↔
      ∃ type, (name, type) ∈ declared ∧ type.Has v := by
  simp only [assignByName_iff]
  simp [declared, FieldType.Has, or_and_right, and_assoc, exists_or]

theorem ModuleSettings.exists_assignByName_iff {s : ModuleSettings} {name : Text} {v : Value}
    (hkeys : v.DistinctKeys) (hfree : v.DateTimeFree) :
    (∃ s', assignByName fields s name v = .ok s') ↔
      ∃ type, (name, type) ∈ declared ∧ type.Has v := by
  simp only [assignByName_iff hkeys hfree]
  simp [declared, FieldType.Has, ← FieldType.has_aliases_iff hkeys, or_and_right, and_assoc,
    exists_or]

/-! ### Tables -/

section Tables

variable {entries : List (Text × Value)}

theorem InterfaceSettings.exists_assignEntries_iff (s : InterfaceSettings) :
    (∃ s', assignEntries fields s entries = .ok s') ↔ FitsFields declared entries :=
  SettingsField.exists_assignEntries_iff (fun _ _ _ => exists_assignByName_iff) s

theorem InterfaceSettings.givenBy_assignEntries {s s' : InterfaceSettings}
    (hkeys : (entries.map Prod.fst).Nodup) (h : assignEntries fields s entries = .ok s') :
    s'.GivenBy s (entries.lookup ·) where
  symbolPrefix := takes_assignEntries symbolPrefix (fun _ => Value.IsText) hkeys
    (fun _ _ _ _ hstep => (givenBy_assignByName hstep).symbolPrefix) h
  linkerPrefix := takes_assignEntries linkerPrefix (fun _ => Value.IsText) hkeys
    (fun _ _ _ _ hstep => (givenBy_assignByName hstep).linkerPrefix) h
  runtimeSymbols := takes_assignEntries runtimeSymbols (fun _ => Value.IsTexts) hkeys
    (fun _ _ _ _ hstep => (givenBy_assignByName hstep).runtimeSymbols) h

variable (hentries : DistinctEntries entries) (hfree : ∀ e ∈ entries, e.2.DateTimeFree)

include hentries hfree

theorem ModuleSettings.exists_assignEntries_iff (s : ModuleSettings) :
    (∃ s', assignEntries fields s entries = .ok s') ↔ FitsFields declared entries :=
  SettingsField.exists_assignEntries_iff
    (fun e he _ => exists_assignByName_iff (hentries.2 e he) (hfree e he)) s

theorem ModuleSettings.givenBy_assignEntries {s s' : ModuleSettings}
    (h : assignEntries fields s entries = .ok s') : s'.GivenBy s (entries.lookup ·) := by
  have hstep : ∀ e ∈ entries, ∀ s s', assignByName fields s e.1 e.2 = .ok s' →
      s'.GivenBy s ([e].lookup ·) :=
    fun e he s s' => givenBy_assignByName (hentries.2 e he) (hfree e he)
  exact
    { className := takes_assignEntries className (fun _ => Value.IsText) hentries.1
        (fun e he s s' h => (hstep e he s s' h).className) h
      moduleType := takes_assignEntries moduleType (fun _ => Value.IsText) hentries.1
        (fun e he s s' h => (hstep e he s s' h).moduleType) h
      asyncClassName := takes_assignEntries asyncClassName (fun _ => Value.IsText) hentries.1
        (fun e he s s' h => (hstep e he s s' h).asyncClassName) h
      asyncModuleType := takes_assignEntries asyncModuleType (fun _ => Value.IsText) hentries.1
        (fun e he s s' h => (hstep e he s s' h).asyncModuleType) h
      moduleImport := takes_assignEntries moduleImport (fun _ => Value.IsText) hentries.1
        (fun e he s s' h => (hstep e he s s' h).moduleImport) h
      constAliases := takes_assignEntries constAliases (fun _ => Value.IsAliases) hentries.1
        (fun e he s s' h => (hstep e he s s' h).constAliases) h
      exportTypes := takes_assignEntries exportTypes (fun _ => Value.IsFlag) hentries.1
        (fun e he s s' h => (hstep e he s s' h).exportTypes) h }

end Tables

/-! ### Documents -/

namespace Toml

variable {entries : List (Text × Value)} {key : Text}

theorem tableAt_cases (entries : List (Text × Value)) (key : Text) :
    tableAt entries key = [] ∨ (key, .table (tableAt entries key)) ∈ entries := by
  unfold tableAt
  split
  · next fields hlookup =>
    obtain ⟨front, behind, rfl, -⟩ := List.lookup_eq_some_iff.1 hlookup
    exact .inr (by simp)
  · exact .inl rfl

theorem DistinctEntries.tableAt (h : DistinctEntries entries) :
    DistinctEntries (tableAt entries key) := by
  rcases tableAt_cases entries key with hnil | hmem
  · rw [hnil]
    exact ⟨List.nodup_nil, by simp⟩
  · exact Value.distinctKeys_table_iff.1 (h.2 _ hmem)

theorem dateTimeFree_tableAt (h : ∀ e ∈ entries, e.2.DateTimeFree) :
    ∀ e ∈ tableAt entries key, e.2.DateTimeFree := by
  rcases tableAt_cases entries key with hnil | hmem
  · rw [hnil]
    simp
  · exact Value.dateTimeFree_table_iff.1 (h _ hmem)

end Toml

namespace Settings

variable {entries : List (Text × Value)} {s s' : Settings}

theorem assignByName_iff {name : Text} {v : Value} :
    assignByName fields s name v = .ok s' ↔
      (name = "interface".toList ∧ ∃ i,
        assignValue InterfaceSettings.fields .interfaceTable s.interface v = .ok i ∧
          s' = { s with interface := i }) ∨
      (name = "ffi".toList ∧ ∃ m,
        assignValue ModuleSettings.fields .ffiTable s.ffi v = .ok m ∧
          s' = { s with ffi := m }) := by
  rw [assignByName_eq_ok_iff (by decide)]
  simp [fields, bind_eq_ok_iff, pure, Except.pure, @eq_comm _ name, @eq_comm _ s']

/-- One entry sets one table. -/
theorem takes_assignByName {e : Text × Value} (h : assignByName fields s e.1 e.2 = .ok s') :
    Takes (fun v i => assignValue InterfaceSettings.fields .interfaceTable s.interface v = .ok i)
      s.interface s'.interface ([e].lookup "interface".toList) ∧
    Takes (fun v m => assignValue ModuleSettings.fields .ffiTable s.ffi v = .ok m)
      s.ffi s'.ffi ([e].lookup "ffi".toList) := by
  obtain ⟨name, v⟩ := e
  rcases assignByName_iff.1 h with ⟨rfl, i, hi, rfl⟩ | ⟨rfl, m, hm, rfl⟩
  · exact ⟨hi, rfl⟩
  · exact ⟨rfl, hm⟩

/-- Whether an entry can be assigned does not depend on what was assigned before. -/
theorem exists_assignByName_iff {e : Text × Value} (hkeys : e.2.DistinctKeys)
    (hfree : e.2.DateTimeFree)
    (htable : e.1 = "interface".toList ∨ e.1 = "ffi".toList → ∃ fields, e.2 = .table fields) :
    (∃ s', assignByName fields s e.1 e.2 = .ok s') ↔
      ∃ declared fields,
        (e.1, declared) ∈ Settings.declared ∧ e.2 = .table fields ∧ FitsFields declared fields := by
  obtain ⟨name, v⟩ := e
  constructor
  · rintro ⟨s', hs'⟩
    rcases assignByName_iff.1 hs' with ⟨rfl, i, hi, -⟩ | ⟨rfl, m, hm, -⟩
    · obtain ⟨fields, rfl⟩ := htable (.inl rfl)
      have hfits := (InterfaceSettings.exists_assignEntries_iff s.interface).1 ⟨i, hi⟩
      exact ⟨_, fields, by simp [declared], rfl, hfits⟩
    · obtain ⟨fields, rfl⟩ := htable (.inr rfl)
      have hfits := (ModuleSettings.exists_assignEntries_iff (Value.distinctKeys_table_iff.1 hkeys)
        (Value.dateTimeFree_table_iff.1 hfree) s.ffi).1 ⟨m, hm⟩
      exact ⟨_, fields, by simp [declared], rfl, hfits⟩
  · rintro ⟨declared, fields, hdeclared, rfl, hfits⟩
    have hname : name = "interface".toList ∧ declared = InterfaceSettings.declared ∨
        name = "ffi".toList ∧ declared = ModuleSettings.declared := by
      simpa [Settings.declared] using hdeclared
    rcases hname with ⟨rfl, rfl⟩ | ⟨rfl, rfl⟩
    · obtain ⟨i, hi⟩ := (InterfaceSettings.exists_assignEntries_iff s.interface).2 hfits
      exact ⟨_, assignByName_iff.2 (.inl ⟨rfl, i, hi, rfl⟩)⟩
    · obtain ⟨m, hm⟩ := (ModuleSettings.exists_assignEntries_iff
        (Value.distinctKeys_table_iff.1 hkeys) (Value.dateTimeFree_table_iff.1 hfree) s.ffi).2 hfits
      exact ⟨_, assignByName_iff.2 (.inr ⟨rfl, m, hm, rfl⟩)⟩

/-- The table under a key is what is assigned; one that is missing assigns nothing. -/
theorem assignEntries_tableAt {σ : Type} {fields : List (SettingsField σ)} {expected : Expected}
    {base x : σ} {key : Text}
    (htable : ∀ v, entries.lookup key = some v → ∃ sub, v = .table sub)
    (h : Takes (fun v x => assignValue fields expected base v = .ok x) base x
      (entries.lookup key)) :
    assignEntries fields base (Toml.tableAt entries key) = .ok x := by
  unfold Toml.tableAt
  cases hlookup : entries.lookup key with
  | none =>
    rw [hlookup] at h
    obtain rfl : x = base := h
    rfl
  | some v =>
    obtain ⟨sub, rfl⟩ := htable v hlookup
    rw [hlookup] at h
    exact h

section Documents

variable (hentries : DistinctEntries entries) (hfree : ∀ e ∈ entries, e.2.DateTimeFree)
  (htables : Tabular entries)

include hentries hfree htables

theorem exists_ofDocument_iff : (∃ s, ofDocument entries = .ok s) ↔ Fits entries :=
  exists_assignEntries_iff
    (fun e he _ => exists_assignByName_iff (hentries.2 e he) (hfree e he) (htables e he)) _

/-- Each table starts from the defaults, since no entry before it has touched them. -/
theorem givenBy_ofDocument (h : ofDocument entries = .ok s) : s.GivenBy entries := by
  have htable : ∀ key, key = "interface".toList ∨ key = "ffi".toList →
      ∀ v, entries.lookup key = some v → ∃ fields, v = .table fields := by
    intro key hkey v hlookup
    obtain ⟨front, behind, rfl, -⟩ := List.lookup_eq_some_iff.1 hlookup
    exact htables (key, v) (by simp) hkey
  have hinterface : assignEntries InterfaceSettings.fields {}
      (Toml.tableAt entries "interface".toList) = .ok s.interface :=
    assignEntries_tableAt (htable _ (.inl rfl)) (takes_assignEntries Settings.interface
      (fun i v i' => assignValue InterfaceSettings.fields .interfaceTable i v = .ok i') hentries.1
      (fun _ _ _ _ hstep => (takes_assignByName hstep).1) h)
  have hffi : assignEntries ModuleSettings.fields {}
      (Toml.tableAt entries "ffi".toList) = .ok s.ffi :=
    assignEntries_tableAt (htable _ (.inr rfl)) (takes_assignEntries Settings.ffi
      (fun m v m' => assignValue ModuleSettings.fields .ffiTable m v = .ok m') hentries.1
      (fun _ _ _ _ hstep => (takes_assignByName hstep).2) h)
  exact ⟨InterfaceSettings.givenBy_assignEntries hentries.tableAt.1 hinterface,
    ModuleSettings.givenBy_assignEntries hentries.tableAt (Toml.dateTimeFree_tableAt hfree) hffi⟩

end Documents

/-- A file with a document is loaded as the document is decoded. -/
theorem load_eq_ok_iff {w : Workspace} {path text : Text} (hholds : w.Holds path text)
    (hparse : Toml.parse? text = some entries) :
    load w path = .ok s ↔ ofDocument entries = .ok s := by
  unfold load ofText
  rw [Workspace.readText_eq_ok_iff.2 hholds]
  dsimp only
  rw [hparse]
  dsimp only
  split
  · next hdocument => simp [hdocument]
  · next hdocument => simp [hdocument]

/-- **Settings are decoded field by field.**  A document without date-times, in which `interface`
    and `ffi` are tables if they are there, is loaded exactly if it fits.  What is loaded are the
    settings of which each field is what the document says for it, or the default. -/
theorem load_field_by_field (w : Workspace) (path text : Text) (entries : List (Text × Value))
    (hholds : w.Holds path text) (hparse : Toml.parse? text = some entries)
    (hfree : ∀ e ∈ entries, e.2.DateTimeFree) (htables : Tabular entries) :
    ((∃ s, load w path = .ok s) ↔ Fits entries) ∧
      ∀ s, load w path = .ok s ↔ Fits entries ∧ s.GivenBy entries := by
  have hentries := Toml.distinctEntries_parse? hparse
  simp only [load_eq_ok_iff hholds hparse]
  have hfits := exists_ofDocument_iff hentries hfree htables
  refine ⟨hfits, fun s => ⟨fun h => ?_, fun ⟨hfit, hgiven⟩ => ?_⟩⟩
  · exact ⟨hfits.1 ⟨s, h⟩, givenBy_ofDocument hentries hfree htables h⟩
  · -- Something is loaded, and the document gives one settings record only.
    obtain ⟨s', hs'⟩ := hfits.2 hfit
    obtain rfl := (givenBy_ofDocument hentries hfree htables hs').unique hgiven
    exact hs'

/-- A document that spells one table by a dotted key and one by a header, and an alias table in one
    line; what it leaves out keeps its default. -/
theorem load_field_by_field_mixed :
    let text : Text :=
      "interface.symbol_prefix = 'LIB_'\n[ffi]\nconst_aliases = \x7b B = 'C', A = 'D' \x7d".toList
    let w : Workspace := { tree := ⟨[(fileName, .file (Workspace.encodeText text))]⟩ }
    ∃ entries s, Toml.parse? text = some entries ∧ w.Holds fileName text ∧
      (∀ e ∈ entries, e.2.DateTimeFree) ∧ Tabular entries ∧ load w fileName = .ok s ∧
      s.interface = { symbolPrefix := "LIB_".toList } ∧
      s.ffi = { constAliases := .ofList [("A".toList, "D".toList), ("B".toList, "C".toList)] } := by
  intro text w
  let aliases : List (Text × Text) := [("B".toList, "C".toList), ("A".toList, "D".toList)]
  let entries : List (Text × Value) :=
    [("interface".toList, .table [("symbol_prefix".toList, .string "LIB_".toList)]),
      ("ffi".toList, .table [("const_aliases".toList, .table (aliases.map fun p =>
        (p.1, .string p.2)))])]
  let s : Settings :=
    { interface := { symbolPrefix := "LIB_".toList }
      ffi := { constAliases := .ofList [("A".toList, "D".toList), ("B".toList, "C".toList)] } }
  have hparse : Toml.parse? text = some entries := by
    decide +kernel
  have hholds : w.Holds fileName text := ⟨[fileName], Workspace.locate_eq_ok_iff.1 rfl, rfl⟩
  have hfree : ∀ e ∈ entries, e.2.DateTimeFree := by
    simp [entries, aliases, Value.dateTimeFree_table_iff, Value.DateTimeFree.string]
  have htables : Tabular entries := by
    simp [Tabular, entries]
  have hfits : Fits entries := by
    simp [Fits, FitsFields, entries, declared, InterfaceSettings.declared, ModuleSettings.declared,
      FieldType.Has, Value.IsText, Value.IsPairs]
  have haliases : aliases.Perm s.ffi.constAliases.entries := by
    decide
  have hgiven : s.GivenBy entries :=
    ⟨⟨rfl, rfl, rfl⟩, ⟨rfl, rfl, rfl, rfl, rfl, ⟨aliases, rfl, haliases⟩, rfl⟩⟩
  obtain ⟨-, hload⟩ := load_field_by_field w fileName text entries hholds hparse hfree htables
  exact ⟨entries, s, hparse, hholds, hfree, htables, (hload s).2 ⟨hfits, hgiven⟩, rfl, rfl⟩

end Settings

end CInterface
