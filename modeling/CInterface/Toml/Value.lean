import CInterface.Binary64

namespace CInterface.Toml

/-!
# TOML — values

The values of a TOML document.  A table keeps its entries in the order in which the document
settles them; each key occurs once.
-/

/-- A value of a TOML document. -/
inductive Value
  | string (text : Text)
  | integer (n : Int)
  | float (x : Binary64)
  | boolean (b : Bool)
  /-- A date, a time or both, in canonical spelling. -/
  | dateTime (text : Text)
  | array (items : List Value)
  | table (entries : List (Text × Value))
  deriving Repr

/-! ### Equality of values -/

mutual

/-- Values of one kind are compared part by part; values of different kinds are different. -/
def Value.decEq : (v v' : Value) → Decidable (v = v')
  | .string a, .string b => decidable_of_decidable_of_iff (p := a = b) (by simp)
  | .integer a, .integer b => decidable_of_decidable_of_iff (p := a = b) (by simp)
  | .float a, .float b => decidable_of_decidable_of_iff (p := a = b) (by simp)
  | .boolean a, .boolean b => decidable_of_decidable_of_iff (p := a = b) (by simp)
  | .dateTime a, .dateTime b => decidable_of_decidable_of_iff (p := a = b) (by simp)
  | .array a, .array b =>
    letI := decEqItems a b
    decidable_of_decidable_of_iff (p := a = b) (by simp)
  | .table a, .table b =>
    letI := decEqEntries a b
    decidable_of_decidable_of_iff (p := a = b) (by simp)
  | .string _, .integer _ | .string _, .float _ | .string _, .boolean _ | .string _, .dateTime _
  | .string _, .array _ | .string _, .table _
  | .integer _, .string _ | .integer _, .float _ | .integer _, .boolean _ | .integer _, .dateTime _
  | .integer _, .array _ | .integer _, .table _
  | .float _, .string _ | .float _, .integer _ | .float _, .boolean _ | .float _, .dateTime _
  | .float _, .array _ | .float _, .table _
  | .boolean _, .string _ | .boolean _, .integer _ | .boolean _, .float _ | .boolean _, .dateTime _
  | .boolean _, .array _ | .boolean _, .table _
  | .dateTime _, .string _ | .dateTime _, .integer _ | .dateTime _, .float _
  | .dateTime _, .boolean _ | .dateTime _, .array _ | .dateTime _, .table _
  | .array _, .string _ | .array _, .integer _ | .array _, .float _ | .array _, .boolean _
  | .array _, .dateTime _ | .array _, .table _
  | .table _, .string _ | .table _, .integer _ | .table _, .float _ | .table _, .boolean _
  | .table _, .dateTime _ | .table _, .array _ => isFalse nofun

def Value.decEqItems : (a b : List Value) → Decidable (a = b)
  | [], [] => isTrue rfl
  | [], _ :: _ | _ :: _, [] => isFalse nofun
  | v :: a, v' :: b =>
    letI := decEq v v'
    letI := decEqItems a b
    decidable_of_decidable_of_iff (p := v = v' ∧ a = b) (by simp)

def Value.decEqEntries : (a b : List (Text × Value)) → Decidable (a = b)
  | [], [] => isTrue rfl
  | [], _ :: _ | _ :: _, [] => isFalse nofun
  | (k, v) :: a, (k', v') :: b =>
    letI := decEq v v'
    letI := decEqEntries a b
    decidable_of_decidable_of_iff (p := k = k' ∧ v = v' ∧ a = b) (by simp [and_assoc])

end

instance : DecidableEq Value := Value.decEq

end CInterface.Toml
