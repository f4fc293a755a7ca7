import CInterface.Settings
import CInterface.Text.Quoted
import CInterface.Toml.Document

namespace CInterface

/-!
# Settings — decoding a document

A document sets fields one by one, in its own order; a field that it leaves out keeps its
default.  The first problem in document order is the one that is reported.

* `Settings.ofDocument` — the settings that a root table gives.
* `Settings.ofText` — the same for the text of a document.
* `DecodeError.message` — the wording of each problem.
-/

/-- What a place in the settings expects. -/
inductive Expected
  | string
  | boolean
  | sequence
  | map
  | interfaceTable
  | ffiTable
  deriving Repr, DecidableEq

/-- The expectation in words. -/
def Expected.message : Expected → Text
  | string => "a string".toList
  | boolean => "a boolean".toList
  | sequence => "a sequence".toList
  | map => "a map".toList
  | interfaceTable => "struct InterfaceConfig".toList
  | ffiTable => "struct FfiConfig".toList

/-- Why a text gives no settings. -/
inductive DecodeError
  /-- It is no TOML document. -/
  | malformed
  /-- A table has a field that it should not have. -/
  | unknownField (name : Text) (known : List Text)
  /-- A value is not of the type that its place expects. -/
  | wrongType (found : Toml.Value) (expected : Expected)

namespace DecodeError

/-- A value in words. -/
def describe : Toml.Value → Text
  | .string t => "string ".toList ++ Text.quoted t
  | .integer n => "integer `".toList ++ Text.signedDecimal n ++ "`".toList
  | .float x => "floating point `".toList ++ x.text ++ "`".toList
  | .boolean b => "boolean `".toList ++ (if b then "true" else "false").toList ++ "`".toList
  | .dateTime _ => "map".toList
  | .array _ => "sequence".toList
  | .table _ => "map".toList

/-- The known fields in words: two are named as alternatives, more as a list. -/
def describeKnown (known : List Text) : Text :=
  let quotedNames := known.map fun name => '`' :: name ++ ['`']
  match quotedNames with
  | [a, b] => a ++ " or ".toList ++ b
  | names => "one of ".toList ++ Text.joinWith ", ".toList names

/-- The problem in words. -/
def message : DecodeError → Text
  | malformed => "TOML syntax error".toList
  | unknownField name known =>
    "unknown field `".toList ++ name ++ "`, expected ".toList ++ describeKnown known
  | wrongType found expected =>
    "invalid type: ".toList ++ describe found ++ ", expected ".toList ++ expected.message

end DecodeError

namespace Toml.Value

/-- The field under which a date-time shows its text where a table is expected. -/
def dateTimeField : Text := "$__toml_private_datetime".toList

/-- The string that a value is. -/
def toText : Value → Except DecodeError Text
  | .string t => .ok t
  | v => .error (.wrongType v .string)

/-- The truth value that a value is. -/
def toBool : Value → Except DecodeError Bool
  | .boolean b => .ok b
  | v => .error (.wrongType v .boolean)

/-- The list of strings that a value is. -/
def toTexts : Value → Except DecodeError (List Text)
  | .array items => items.mapM toText
  | v => .error (.wrongType v .sequence)

/-- The entries that a value has as a table; a date-time counts as a table of one entry. -/
def entries? : Value → Option (List (Text × Value))
  | .table entries => some entries
  | .dateTime t => some [(dateTimeField, .string t)]
  | _ => none

/-- The table of strings that a value is. -/
def toAliases (v : Value) : Except DecodeError AliasTable :=
  match v.entries? with
  | some entries => do
    let pairs ← entries.mapM fun e => (e.1, ·) <$> toText e.2
    pure (AliasTable.ofList pairs)
  | none => .error (.wrongType v .map)

end Toml.Value

open Toml (Value)

/-- A field of a record: its name and how a value sets it. -/
structure SettingsField (σ : Type) where
  name : Text
  assign : σ → Value → Except DecodeError σ

namespace SettingsField

variable {σ : Type}

/-- Set the field of a given name. -/
def assignByName (fields : List (SettingsField σ)) (s : σ) (name : Text) (v : Value) :
    Except DecodeError σ :=
  match fields.find? (·.name = name) with
  | some f => f.assign s v
  | none => .error (.unknownField name (fields.map (·.name)))

/-- Set fields by name, one after the other. -/
def assignEntries (fields : List (SettingsField σ)) (s : σ) (entries : List (Text × Value)) :
    Except DecodeError σ :=
  entries.foldlM (fun s e => assignByName fields s e.1 e.2) s

/-- Set the fields in order from a list of values; values beyond the last field are ignored. -/
def assignItems (fields : List (SettingsField σ)) (s : σ) (items : List Value) :
    Except DecodeError σ :=
  (fields.zip items).foldlM (fun s p => p.1.assign s p.2) s

/-- Set fields from a table, or in order from an array. -/
def assignValue (fields : List (SettingsField σ)) (expected : Expected) (s : σ) (v : Value) :
    Except DecodeError σ :=
  match v with
  | .array items => assignItems fields s items
  | v =>
    match v.entries? with
    | some entries => assignEntries fields s entries
    | none => .error (.wrongType v expected)

end SettingsField

/-- The fields of the interface settings. -/
def InterfaceSettings.fields : List (SettingsField InterfaceSettings) :=
  [ { name := "symbol_prefix".toList
      assign := fun s v => do pure { s with symbolPrefix := ← v.toText } },
    { name := "linker_prefix".toList
      assign := fun s v => do pure { s with linkerPrefix := ← v.toText } },
    { name := "runtime_symbols".toList
      assign := fun s v => do pure { s with runtimeSymbols := ← v.toTexts } } ]

/-- The fields of the module settings. -/
def ModuleSettings.fields : List (SettingsField ModuleSettings) :=
  [ { name := "class_name".toList
      assign := fun s v => do pure { s with className := ← v.toText } },
    { name := "module_type".toList
      assign := fun s v => do pure { s with moduleType := ← v.toText } },
    { name := "async_class_name".toList
      assign := fun s v => do pure { s with asyncClassName := ← v.toText } },
    { name := "async_module_type".toList
      assign := fun s v => do pure { s with asyncModuleType := ← v.toText } },
    { name := "module_import".toList
      assign := fun s v => do pure { s with moduleImport := ← v.toText } },
    { name := "const_aliases".toList
      assign := fun s v => do pure { s with constAliases := ← v.toAliases } },
    { name := "export_types".toList
      assign := fun s v => do pure { s with exportTypes := ← v.toBool } } ]

/-- The fields of the settings. -/
def Settings.fields : List (SettingsField Settings) :=
  [ { name := "interface".toList
      assign := fun s v => do
        pure { s with interface :=
          ← SettingsField.assignValue InterfaceSettings.fields .interfaceTable s.interface v } },
    { name := "ffi".toList
      assign := fun s v => do
        pure { s with ffi :=
          ← SettingsField.assignValue ModuleSettings.fields .ffiTable s.ffi v } } ]

namespace Settings

/-- The settings that the entries of a root table give. -/
def ofDocument (entries : List (Text × Value)) : Except DecodeError Settings :=
  SettingsField.assignEntries fields {} entries

/-- The settings that the text of a document gives. -/
def ofText (t : Text) : Except DecodeError Settings :=
  match Toml.parse? t with
  | none => .error .malformed
  | some entries => ofDocument entries

end Settings

end CInterface
