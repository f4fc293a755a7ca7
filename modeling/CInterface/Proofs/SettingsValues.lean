import CInterface.Proofs.AliasOrder
import CInterface.Proofs.FileWriting
import CInterface.Proofs.TomlTables
import CInterface.Settings.Decode

namespace CInterface

/-!
# Settings — what values say

The types of settings and the values of a document that have them.  What a value says is a relation
between it and a text, a list of texts, a table or a truth value; the decoders find exactly what is
related.

* `Toml.Value.DateTimeFree` — no date-time inside, which would be taken for a table.
* `Toml.Value.IsText`, `IsTexts`, `IsAliases`, `IsFlag` — a value has a type and says something.
* `Toml.Value.toAliases_eq_ok_iff` — only a table of strings is decoded as a table, entry by entry.
-/

open Workspace (bind_eq_ok_iff)

/-- A list can be read item by item if each item is the spelling of something. -/
theorem mapM_eq_ok_iff {ε α β : Type} {read : α → Except ε β} {spell : β → α}
    (h : ∀ a b, read a = .ok b ↔ a = spell b) {items : List α} {results : List β} :
    items.mapM read = .ok results ↔ items = results.map spell := by
  induction items generalizing results with
  | nil =>
    cases results with
    | nil => simp [pure, Except.pure]
    | cons b results => simp [pure, Except.pure]
  | cons a items ih =>
    rw [List.mapM_cons]
    simp only [bind_eq_ok_iff, h, ih]
    constructor
    · rintro ⟨b, rfl, results', rfl, heq⟩
      obtain rfl := Except.ok.inj heq
      rfl
    · intro heq
      cases results with
      | nil => simp at heq
      | cons b results =>
        obtain ⟨rfl, rfl⟩ := List.cons.inj heq
        exact ⟨b, rfl, results, rfl, rfl⟩

namespace Toml.Value

/-- No date-time stands in the value, however deep. -/
inductive DateTimeFree : Value → Prop
  | string {t : Text} : DateTimeFree (.string t)
  | integer {n : Int} : DateTimeFree (.integer n)
  | float {x : Binary64} : DateTimeFree (.float x)
  | boolean {b : Bool} : DateTimeFree (.boolean b)
  | array {items : List Value} (inside : ∀ v ∈ items, DateTimeFree v) : DateTimeFree (.array items)
  | table {entries : List (Text × Value)} (inside : ∀ e ∈ entries, DateTimeFree e.2) :
      DateTimeFree (.table entries)

theorem dateTimeFree_table_iff {entries : List (Text × Value)} :
    (Value.table entries).DateTimeFree ↔ ∀ e ∈ entries, e.2.DateTimeFree := by
  constructor
  · rintro ⟨⟩
    assumption
  · exact .table

/-! ### What values say -/

/-- The value is a string. -/
def IsText (v : Value) (t : Text) : Prop :=
  v = .string t

/-- The value is an array of strings. -/
def IsTexts (v : Value) (ts : List Text) : Prop :=
  v = .array (ts.map .string)

/-- The value is a truth value. -/
def IsFlag (v : Value) (b : Bool) : Prop :=
  v = .boolean b

/-- The value is a table of strings, with these pairs in this order. -/
def IsPairs (v : Value) (pairs : List (Text × Text)) : Prop :=
  v = .table (pairs.map fun p => (p.1, .string p.2))

/-- The value is a table of strings and has the entries of `table`, in any order. -/
def IsAliases (v : Value) (table : AliasTable) : Prop :=
  ∃ pairs, v.IsPairs pairs ∧ pairs.Perm table.entries

/-! ### A value says one thing -/

theorem IsText.unique {v : Value} {t t' : Text} (h : v.IsText t) (h' : v.IsText t') : t = t' :=
  Value.string.inj (h.symm.trans h')

theorem IsFlag.unique {v : Value} {b b' : Bool} (h : v.IsFlag b) (h' : v.IsFlag b') : b = b' :=
  Value.boolean.inj (h.symm.trans h')

theorem IsTexts.unique {v : Value} {ts ts' : List Text} (h : v.IsTexts ts) (h' : v.IsTexts ts') :
    ts = ts' :=
  List.map_injective_iff.2 (fun _ _ => Value.string.inj) (Value.array.inj (h.symm.trans h'))

theorem IsPairs.unique {v : Value} {pairs pairs' : List (Text × Text)} (h : v.IsPairs pairs)
    (h' : v.IsPairs pairs') : pairs = pairs' := by
  refine List.map_injective_iff.2 ?_ (Value.table.inj (h.symm.trans h'))
  rintro ⟨key, t⟩ ⟨key', t'⟩ hsame
  simpa using hsame

theorem IsAliases.unique {v : Value} {table table' : AliasTable} (h : v.IsAliases table)
    (h' : v.IsAliases table') : table = table' := by
  obtain ⟨pairs, hpairs, hperm⟩ := h
  obtain ⟨pairs', hpairs', hperm'⟩ := h'
  obtain rfl := hpairs.unique hpairs'
  exact AliasTable.eq_of_perm (hperm.symm.trans hperm')

/-! ### Decoders -/

theorem toText_eq_ok_iff {v : Value} {t : Text} : v.toText = .ok t ↔ v.IsText t := by
  cases v <;> simp [toText, IsText]

theorem toBool_eq_ok_iff {v : Value} {b : Bool} : v.toBool = .ok b ↔ v.IsFlag b := by
  cases v <;> simp [toBool, IsFlag]

theorem toTexts_eq_ok_iff {v : Value} {ts : List Text} : v.toTexts = .ok ts ↔ v.IsTexts ts := by
  cases v with
  | array items =>
    have hread := @mapM_eq_ok_iff _ _ _ toText .string (fun _ _ => toText_eq_ok_iff) items ts
    simpa [toTexts, IsTexts] using hread
  | _ => simp [toTexts, IsTexts]

/-- The keys of a table of strings are distinct, as in every table. -/
theorem IsPairs.nodup {v : Value} {pairs : List (Text × Text)} (h : v.IsPairs pairs)
    (hkeys : v.DistinctKeys) : (pairs.map Prod.fst).Nodup := by
  obtain rfl : v = _ := h
  have hnodup := (distinctKeys_table_iff.1 hkeys).1
  rwa [List.map_map] at hnodup

/-- Apart from a date-time, which counts as a table too, only a table of strings is read. -/
theorem toAliases_eq_ok_iff {v : Value} (hkeys : v.DistinctKeys) (hfree : v.DateTimeFree)
    {table : AliasTable} : v.toAliases = .ok table ↔ v.IsAliases table := by
  cases hfree with
  | @table entries _ =>
    have hentry : ∀ (e : Text × Value) (p : Text × Text),
        ((e.1, ·) <$> toText e.2) = .ok p ↔ e = (p.1, .string p.2) := by
      rintro ⟨key, v⟩ ⟨key', t⟩
      rw [map_eq_pure_bind, bind_eq_ok_iff]
      simp [toText_eq_ok_iff, IsText, pure, Except.pure, and_comm]
    have hpairs : ∀ pairs, entries.mapM (fun e => (e.1, ·) <$> toText e.2) = .ok pairs ↔
        (Value.table entries).IsPairs pairs := by
      intro pairs
      rw [mapM_eq_ok_iff hentry, IsPairs, Value.table.injEq]
    show (_ >>= _) = _ ↔ _
    rw [bind_eq_ok_iff]
    refine exists_congr fun pairs => ?_
    rw [hpairs]
    refine and_congr_right fun h => ?_
    rw [← AliasTable.ofList_eq_iff (h.nodup hkeys)]
    exact Except.ok.injEq _ _ |>.to_iff
  | _ => simp [toAliases, entries?, IsAliases, IsPairs]

end Toml.Value

end CInterface
