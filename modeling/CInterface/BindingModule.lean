import CInterface.Binding
import CInterface.Interface.Basic
import CInterface.Settings
import CInterface.TypeExports

namespace CInterface

/-!
# Binding modules

The TypeScript module with one class member per exported function.  Type declarations from
elsewhere are spliced in between the import and the class.
-/

/-- The names and choices of one generated module. -/
structure ModuleStyle where
  className : Text
  moduleType : Text
  moduleImport : Text
  constAliases : AliasTable
  exportTypes : Bool

/-- The style that settings give to a module, for an asynchronous build or not. -/
def ModuleSettings.style (s : ModuleSettings) (asyncify : Bool) : ModuleStyle where
  className := if asyncify then s.asyncClassName else s.className
  moduleType := if asyncify then s.asyncModuleType else s.moduleType
  moduleImport := s.moduleImport
  constAliases := s.constAliases
  exportTypes := s.exportTypes

namespace ModuleStyle

/-- The bindings of an interface, in declaration order. -/
def bindings (s : ModuleStyle) (i : Interface) : List Binding :=
  i.declarations.map (Binding.ofDeclaration s.constAliases)

/-- The class members, with an empty line between neighbours. -/
def members (s : ModuleStyle) (i : Interface) : Text :=
  Text.joinWith "\n\n".toList ((s.bindings i).map Binding.member)

/-- The type declarations as the module holds them. -/
def splicedTypes (s : ModuleStyle) (types : Text) : Text :=
  if s.exportTypes then TypeExports.exportTypes types else types

/-- The module's text in front of the spliced types. -/
def opening (s : ModuleStyle) : Text :=
  "// This file generated by \"ifacegen ffi\" in the root of the repo.\n".toList
    ++ "import \x7b ".toList ++ s.moduleType ++ " \x7d from \"".toList ++ s.moduleImport
    ++ "\"\n\n".toList

/-- The module's text between the spliced types and the members. -/
def classOpening (s : ModuleStyle) : Text :=
  "\n\n/**\n".toList
    ++ " * Low-level FFI bindings to the Emscripten module.\n".toList
    ++ " *\n".toList
    ++ " * @unstable The FFI interface is considered private and may change.\n".toList
    ++ " */\n".toList
    ++ "export class ".toList ++ s.className ++ " \x7b\n".toList
    ++ "  constructor(private module: ".toList ++ s.moduleType ++ ") \x7b\x7d\n\n".toList

/-- The module's text. -/
def render (s : ModuleStyle) (i : Interface) (types : Text) : Text :=
  Text.trim (s.opening ++ s.splicedTypes types ++ s.classOpening ++ s.members i ++ "\n\x7d".toList)

end ModuleStyle

end CInterface
