import CInterface.BindingModule
import CInterface.Header
import CInterface.SymbolList

namespace CInterface

/-!
# Artifacts

The three texts that are written from one interface.  All are rendered from the same value, so
they speak of the same declarations in the same order.
-/

/-- Which text to write. -/
inductive Artifact
  /-- The list of exported symbols. -/
  | symbols
  /-- The C header. -/
  | header
  /-- The TypeScript bindings. -/
  | ffi
  deriving Repr, DecidableEq

namespace Artifact

/-- The artifact's name. -/
def label : Artifact → Text
  | symbols => "symbols".toList
  | header => "header".toList
  | ffi => "ffi".toList

/-- The artifact of a given name. -/
def ofLabel? (name : Text) : Option Artifact :=
  [symbols, header, ffi].find? (·.label = name)

/-- What is said of a name that no artifact has. -/
def unknownLabelMessage (name : Text) : Text :=
  "invalid mode '".toList ++ name ++ "'; expected 'symbols', 'header', or 'ffi'".toList

/-- The artifact's text.  The type declarations matter to the bindings only. -/
def render (a : Artifact) (i : Interface) (s : Settings) (asyncify : Bool) (types : Text) : Text :=
  match a with
  | symbols => SymbolList.render s.interface i
  | header => Header.render i
  | ffi => (s.ffi.style asyncify).render i types

/-- An artifact is found by its own name. -/
@[simp] theorem ofLabel?_label (a : Artifact) : ofLabel? a.label = some a := by
  cases a <;> rfl

end Artifact

end CInterface
