import CInterface.Text.Basic

namespace CInterface

/-!
# Value types

How a C value crosses the boundary of a compiled module.  `mapType` sorts any C type into one
of four kinds and picks the name that it has in TypeScript.

* `squeeze` — a C type without whitespace and without the word `const`.
* `mapType` — `char*` anywhere makes a string; `bool`, `void`, `int` and `double` have names of
  their own; anything else is a number named for the squeezed type.
-/

/-- How a value is passed to and from a compiled function. -/
inductive CallKind
  /-- An integer, a floating-point number or an opaque pointer. -/
  | number
  /-- A `char *`. -/
  | string
  /-- A `bool`. -/
  | boolean
  /-- Nothing, as a `void` function returns. -/
  | none
  deriving Repr, DecidableEq

namespace CallKind

/-- The kind's name. -/
def label : CallKind → Text
  | number => "number".toList
  | string => "string".toList
  | boolean => "boolean".toList
  | none => "none".toList

/-- The kind as an argument of `cwrap`. -/
def literal : CallKind → Text
  | number => "\"number\"".toList
  | string => "\"string\"".toList
  | boolean => "\"boolean\"".toList
  | none => "null".toList

end CallKind

/-- What a C type is on the other side of the boundary. -/
structure TypeMapping where
  /-- The C type as written. -/
  source : Text
  /-- How its values are passed. -/
  kind : CallKind
  /-- The type's name in TypeScript. -/
  target : Text
  deriving Repr, DecidableEq

namespace ValueType

/-- What a star becomes in a name. -/
def pointerSuffix : Text := "Pointer".toList

/-- A word of a type, unless it is `const`. -/
def keepWord (word : Text) : Text :=
  if word = "const".toList then [] else word

/-- A character of a type outside its words, unless it is whitespace. -/
def keepOther (c : Char) : Text :=
  if Text.isWhitespace c then [] else [c]

/-- The word at the beginning of a type, and what is kept of the text behind that word. -/
def squeezeParts : Text → Text × Text
  | [] => ([], [])
  | c :: rest =>
    let (word, behind) := squeezeParts rest
    if Text.isNameChar c then (c :: word, behind)
    else ([], keepOther c ++ keepWord word ++ behind)

/-- A type without whitespace and without the word `const`. -/
def squeeze (type : Text) : Text :=
  let (word, behind) := squeezeParts type
  keepWord word ++ behind

/-- A type's name with each star written out. -/
def spellStars (type : Text) : Text :=
  type.flatMap fun c => if c = '*' then pointerSuffix else [c]

/-- The kind and the TypeScript name of a squeezed type. -/
def classify (squeezed : Text) : CallKind × Text :=
  if Text.contains "char*".toList squeezed then (.string, "string".toList)
  else if squeezed = "bool".toList then (.boolean, "boolean".toList)
  else if squeezed = "void".toList then (.none, "void".toList)
  else if squeezed = "double".toList || squeezed = "int".toList then (.number, "number".toList)
  else (.number, spellStars squeezed)

end ValueType

/-- The mapping of a C type. -/
def mapType (type : Text) : TypeMapping :=
  let (kind, target) := ValueType.classify (ValueType.squeeze type)
  { source := type, kind := kind, target := target }

end CInterface
