import CInterface.Text.Basic

namespace CInterface

/-!
# Declarations

An exported C function as its one-line definition gives it: return type, name and parameter
list, each exactly as written.

* `Declaration.prototype` — the signature with `;` in place of the body.
* `Declaration.parameters` — the parameter list cut at its commas into named parameters.
-/

/-- The signature of an exported function. -/
structure Declaration where
  /-- The function's name. -/
  name : Text
  /-- The return type as written, with the blanks or stars in front of the name. -/
  returnType : Text
  /-- The text between the parentheses. -/
  parameterList : Text
  deriving Repr, DecidableEq

/-- A parameter of a function. -/
structure Parameter where
  /-- The parameter's name. -/
  name : Text
  /-- The type in front of the name, trimmed. -/
  type : Text
  deriving Repr, DecidableEq

/-- The name of an unnamed parameter at a position. -/
def Parameter.positionalName (index : Nat) : Text :=
  "arg".toList ++ Text.decimal index

/-- The parameter written as `entry` at position `index`.  The longest end made of name
    characters is the name, unless it is empty or the whole entry: a bare word such as `int` is
    a type, and the parameter is then named for its position. -/
def Parameter.ofEntry (index : Nat) (entry : Text) : Parameter :=
  let entry := Text.trim entry
  let name := Text.takeEndWhile Text.isNameChar entry
  let front := Text.dropEndWhile Text.isNameChar entry
  if name.isEmpty || front.isEmpty then
    { name := positionalName index, type := entry }
  else
    { name := name, type := Text.trim front }

namespace Declaration

/-- The entries of the parameter list: none if it is blank or `void`, else the texts between
    its commas.  Commas inside parentheses count too. -/
def entries (d : Declaration) : List Text :=
  let list := Text.trim d.parameterList
  if list.isEmpty || list = "void".toList then [] else Text.splitOn ',' list

/-- The parameters, in the order of their entries. -/
def parameters (d : Declaration) : List Parameter :=
  d.entries.mapIdx Parameter.ofEntry

/-- The signature as a prototype: return type, name, parameters in parentheses, `;`. -/
def prototype (d : Declaration) : Text :=
  d.returnType ++ d.name ++ '(' :: d.parameterList ++ ");".toList

/-- There is one parameter per entry. -/
@[simp] theorem length_parameters (d : Declaration) : d.parameters.length = d.entries.length := by
  simp [parameters]

end Declaration

end CInterface
