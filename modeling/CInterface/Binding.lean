import CInterface.AliasTable
import CInterface.Declaration
import CInterface.ValueType

namespace CInterface

/-!
# Bindings

The TypeScript member through which an exported function is called: its parameters and result
with their types on both sides of the boundary.

* `Binding.widen` — a pointer to a const alias also accepts a pointer to the aliased type.
* `Binding.typeText`, `Binding.callText`, `Binding.member` — the member's type, its `cwrap` call,
  and both as a class member.
-/

/-- A parameter of a binding. -/
structure BindingParameter where
  /-- The parameter's name. -/
  name : Text
  /-- The TypeScript type that the binding accepts. -/
  target : Text
  /-- The mapping of the parameter's C type. -/
  mapping : TypeMapping
  deriving Repr, DecidableEq

/-- A binding of an exported function. -/
structure Binding where
  /-- The function's name. -/
  name : Text
  /-- The parameters, in declaration order. -/
  parameters : List BindingParameter
  /-- The mapping of the return type. -/
  result : TypeMapping
  deriving Repr, DecidableEq

namespace Binding

/-- What an alias contributes to a type that begins with a pointer to it: the same pointer to
    the aliased type. -/
def widenedBy? (target : Text) (entry : Text × Text) : Option Text :=
  match Text.dropStart? entry.1 target with
  | none => none
  | some rest =>
    if Text.startsWith rest ValueType.pointerSuffix then some (entry.2 ++ rest) else none

/-- The types that a parameter of type `target` accepts: by the first alias that applies, the
    aliased pointer too. -/
def widen (aliases : AliasTable) (target : Text) : Text :=
  match aliases.entries.findSome? (widenedBy? target) with
  | some wider => wider ++ " | ".toList ++ target
  | none => target

/-- The binding parameter of a C parameter. -/
def ofParameter (aliases : AliasTable) (p : Parameter) : BindingParameter :=
  let mapping := mapType p.type
  { name := p.name, target := widen aliases mapping.target, mapping := mapping }

/-- The binding of a declaration. -/
def ofDeclaration (aliases : AliasTable) (d : Declaration) : Binding where
  name := d.name
  parameters := d.parameters.map (ofParameter aliases)
  result := mapType (Text.trim d.returnType)

/-- The member's TypeScript type: `(a: T, b: U) => R`. -/
def typeText (b : Binding) : Text :=
  let parameters := b.parameters.map fun p => p.name ++ ": ".toList ++ p.target
  '(' :: Text.joinWith ", ".toList parameters ++ ") => ".toList ++ b.result.target

/-- The member's value: `this.module.cwrap("name", result, [parameters])`. -/
def callText (b : Binding) : Text :=
  "this.module.cwrap(\"".toList ++ b.name ++ "\", ".toList ++ b.result.kind.literal ++ ", [".toList
    ++ Text.joinWith ",".toList (b.parameters.map (·.mapping.kind.literal)) ++ "])".toList

/-- Does the function return nothing? -/
def returnsVoid (b : Binding) : Bool :=
  b.result.kind = .none

/-- The class member. -/
def member (b : Binding) : Text :=
  "  ".toList ++ b.name ++ ": ".toList ++ b.typeText ++ " =\n    ".toList ++ b.callText

end Binding

end CInterface
