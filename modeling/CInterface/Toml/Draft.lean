import CInterface.Toml.Value

namespace CInterface.Toml

/-!
# TOML — tables under construction

A document builds its tables piece by piece, and what may be added to a table depends on how
the table came about.  Each operation fails when it would define something twice.

* `Draft.insertPair` — put a value under a dotted key.
* `Draft.placeTable` — put the table of a header `[path]` in its place.
* `Draft.appendTable` — put the table of a header `[[path]]` at the end of its array.
-/

/-- How a table came about. -/
inductive Origin
  /-- By a header of its own. -/
  | header
  /-- As a part of the path of another table's header. -/
  | path
  /-- As a part of a dotted key. -/
  | dotted
  deriving Repr, DecidableEq

/-- A value or a table under construction. -/
inductive Draft
  | value (v : Value)
  | table (origin : Origin) (fields : List (Text × Draft))
  /-- An array of tables that have headers of their own. -/
  | tables (items : List (List (Text × Draft)))

/-- The fields of a table under construction. -/
abbrev Fields := List (Text × Draft)

/-- A dotted key: the parts that lead to a table, and the last part. -/
structure Key where
  path : List Text
  name : Text
  deriving Repr

namespace Draft

/-- The fields with another draft under a key that they have. -/
def setField (key : Text) (d : Draft) (fields : Fields) : Fields :=
  fields.map fun f => if f.1 = key then (key, d) else f

/-- The fields without a key. -/
def eraseField (key : Text) (fields : Fields) : Fields :=
  fields.filter fun f => f.1 ≠ key

/-- Change the table at the end of a path, making tables of origin `made` where there are none.
    A path leads into the last table of an array.  It leads into no plain value, and a dotted key
    leads into no table that has a header. -/
def modifyAt (made : Origin) (change : Origin → Fields → Option Fields) :
    List Text → Origin → Fields → Option Fields
  | [], origin, fields => change origin fields
  | key :: path, _, fields =>
    match fields.lookup key with
    | none => do
      let inner ← modifyAt made change path made []
      some (fields ++ [(key, .table made inner)])
    | some (.value _) => none
    | some (.tables items) => do
      let inner ← modifyAt made change path .header (items.getLast?.getD [])
      some (setField key (.tables (items.dropLast ++ [inner])) fields)
    | some (.table origin inner) =>
      if made = .dotted && origin = .header then none
      else do
        let inner ← modifyAt made change path origin inner
        some (setField key (.table origin inner) fields)

/-- Put a value under a dotted key, seen from a table with a header.  The key must be new, and
    the table that it leads to must come from dotted keys only. -/
def insertPair (fields : Fields) (key : Key) (v : Value) : Option Fields :=
  modifyAt .dotted
    (fun origin fields =>
      if decide (origin = .dotted) == key.path.isEmpty then none
      else if (fields.lookup key.name).isSome then none
      else some (fields ++ [(key.name, .value v)]))
    key.path .header fields

/-- Put values under dotted keys, one after the other. -/
def insertPairs (fields : Fields) (pairs : List (Key × Value)) : Option Fields :=
  pairs.foldlM (fun fields p => insertPair fields p.1 p.2) fields

/-- Put the table of a header in its place, with the pairs below the header.  A table that other
    headers have only passed through is taken over, and moves behind its neighbours. -/
def placeTable (root : Fields) (key : Key) (pairs : List (Key × Value)) : Option Fields :=
  modifyAt .path
    (fun _ fields =>
      match fields.lookup key.name with
      | none => do
        let inner ← insertPairs [] pairs
        some (fields ++ [(key.name, .table .header inner)])
      | some (.table .path inner) => do
        let inner ← insertPairs inner pairs
        some (eraseField key.name fields ++ [(key.name, .table .header inner)])
      | some _ => none)
    key.path .header root

/-- Put the table of an array header at the end of its array, with the pairs below the
    header. -/
def appendTable (root : Fields) (key : Key) (pairs : List (Key × Value)) : Option Fields :=
  modifyAt .path
    (fun _ fields => do
      let inner ← insertPairs [] pairs
      match fields.lookup key.name with
      | none => some (fields ++ [(key.name, .tables [inner])])
      | some (.tables items) => some (setField key.name (.tables (items ++ [inner])) fields)
      | some _ => none)
    key.path .header root

mutual

/-- The value that a draft has become. -/
def toValue : Draft → Value
  | .value v => v
  | .table _ fields => .table (toEntries fields)
  | .tables items => .array (toTables items)

/-- The entries that fields have become. -/
def toEntries : Fields → List (Text × Value)
  | [] => []
  | (key, d) :: rest => (key, toValue d) :: toEntries rest

/-- The tables that an array of tables has become. -/
def toTables : List Fields → List Value
  | [] => []
  | fields :: rest => .table (toEntries fields) :: toTables rest

end

end Draft

end CInterface.Toml
