import CInterface.Interface.Basic
import CInterface.Settings
import CInterface.Text.Quoted

namespace CInterface.SymbolList

/-!
# Symbol lists

The names that the linker has to export: every declaration, then the runtime functions, each
with what the linker puts in front of it.  The list is written as a JSON array.
-/

/-- The names as the linker knows them. -/
def symbols (s : InterfaceSettings) (i : Interface) : List Text :=
  (i.names ++ s.runtimeSymbols).map (s.linkerPrefix ++ ·)

/-- A list of texts as a JSON array. -/
def renderArray (texts : List Text) : Text :=
  '[' :: Text.joinWith ",".toList (texts.map Text.jsonString) ++ [']']

/-- The symbol list's text. -/
def render (s : InterfaceSettings) (i : Interface) : Text :=
  renderArray (symbols s i)

/-- There is one symbol per declaration and per runtime function. -/
@[simp] theorem length_symbols (s : InterfaceSettings) (i : Interface) :
    (symbols s i).length = i.declarations.length + s.runtimeSymbols.length := by
  simp [symbols, Interface.names]

end CInterface.SymbolList
