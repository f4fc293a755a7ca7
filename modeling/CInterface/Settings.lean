import CInterface.AliasTable

namespace CInterface

/-!
# Settings

The naming conventions of an interface and of the module that is generated for it, with their
defaults.
-/

/-- Naming conventions of the C interface. -/
structure InterfaceSettings where
  /-- What the name of an exported function begins with. -/
  symbolPrefix : Text := "QTS_".toList
  /-- What the linker puts in front of a C name. -/
  linkerPrefix : Text := "_".toList
  /-- Runtime functions that are exported as well. -/
  runtimeSymbols : List Text := ["malloc".toList, "free".toList]

/-- Names used by the generated module. -/
structure ModuleSettings where
  /-- The class that holds the bindings. -/
  className : Text := "QuickJSFFI".toList
  /-- The type of the compiled module. -/
  moduleType : Text := "QuickJSEmscriptenModule".toList
  /-- The class for an asynchronous build. -/
  asyncClassName : Text := "QuickJSAsyncFFI".toList
  /-- The type of an asynchronous compiled module. -/
  asyncModuleType : Text := "QuickJSAsyncEmscriptenModule".toList
  /-- Where the module type is imported from. -/
  moduleImport : Text := "./emscripten-types".toList
  /-- Names of const types and the types they stand for. -/
  constAliases : AliasTable := AliasTable.ofList [("JSValueConst".toList, "JSValue".toList)]
  /-- Are the spliced type declarations exported? -/
  exportTypes : Bool := false

/-- All settings. -/
structure Settings where
  interface : InterfaceSettings := {}
  ffi : ModuleSettings := {}

end CInterface
