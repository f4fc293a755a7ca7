import CInterface.Interface.Basic

namespace CInterface.Header

/-!
# Headers

A standalone C header: the include lines, the typedef lines and one prototype per exported
function.  The three blocks are parted by an empty line and keep their places when empty.
-/

/-- The three blocks of the header. -/
def blocks (i : Interface) : List (List Text) :=
  [i.includes, i.typedefs, i.declarations.map Declaration.prototype]

/-- The header's text. -/
def render (i : Interface) : Text :=
  Text.joinWith "\n\n".toList ((blocks i).map (Text.joinWith "\n".toList))

end CInterface.Header
