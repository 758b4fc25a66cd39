import StructureLint.Toml.Value

/-!
Contract: how keys and headers build up tables.

A header defines a table once.  Dotted keys open tables on their way, and
neither a header nor other dotted keys may reopen a table that was opened in
the other manner.  A value, once set, stays.

Owns:
- tables under construction and the two ways into them;
- setting a key, and opening a table or a further element of an array of tables.

Does not own: text.
-/

namespace StructureLint.Toml

/-- An entry of a table under construction. -/
inductive Item where
  | value (value : Value)
  | table (implicit dotted : Bool) (entries : List (String × Item))
  | tables (rows : List (List (String × Item)))

/-- The entries of a table under construction. -/
abbrev Entries := List (String × Item)

namespace Entries

/-- The entry of a key: where it stood before, or last if it is new. -/
def put (key : String) (item : Item) : Entries → Entries
  | [] => [(key, item)]
  | entry :: rest =>
    if entry.1 == key then (key, item) :: rest else entry :: put key item rest

/-- The entry of a key, last in any case. -/
def putLast (key : String) (item : Item) (entries : Entries) : Entries :=
  entries.filter (fun entry => entry.1 != key) ++ [(key, item)]

/-- Changes the table that a path leads to.  Tables missing on the way are
opened.  `dotted` says whether the path is part of a dotted key, and
`tableDotted` whether the table at hand was opened by one. -/
def update (dotted : Bool) (change : Bool → Entries → Option Entries) :
    (path : List String) → (tableDotted : Bool) → Entries → Option Entries
  | [], tableDotted, entries => change tableDotted entries
  | key :: path, _, entries =>
    match entries.lookup key with
    | none =>
      (update dotted change path dotted []).map fun inner =>
        entries.put key (.table true dotted inner)
    | some (.value _) => none
    | some (.table implicit wasDotted inner) =>
      if dotted && !implicit then
        none
      else
        (update dotted change path wasDotted inner).map fun inner =>
          entries.put key (.table implicit wasDotted inner)
    | some (.tables rows) =>
      match rows.reverse with
      | [] => none
      | last :: earlier =>
        (update dotted change path false last).map fun last =>
          entries.put key (.tables (earlier.reverse ++ [last]))

/-- Sets a key that has no entry yet. -/
def insertNew (key : String) (item : Item) (entries : Entries) : Option Entries :=
  match entries.lookup key with
  | none => some (entries.put key item)
  | some _ => none

/-- Sets the value of a dotted key below a table.  The table at its end must
have been opened by dotted keys as well. -/
def setDotted (path : List String) (key : String) (value : Value) (tableDotted : Bool)
    (entries : Entries) : Option Entries :=
  update true
    (fun reached inner =>
      if reached == path.isEmpty then none else insertNew key (.value value) inner)
    path tableDotted entries

/-- Opens a table by a header.  It may exist only as a table on the way to
another header, and then moves behind the other entries. -/
def openTable (path : List String) (key : String) (root : Entries) : Option Entries :=
  update false
    (fun _ entries =>
      match entries.lookup key with
      | none => some (entries.put key (.table false false []))
      | some (.table true false inner) => some (entries.putLast key (.table false false inner))
      | some _ => none)
    path false root

/-- Opens a further element of an array of tables by a header. -/
def openRow (path : List String) (key : String) (root : Entries) : Option Entries :=
  update false
    (fun _ entries =>
      match entries.lookup key with
      | none => some (entries.put key (.tables [[]]))
      | some (.tables rows) => some (entries.put key (.tables (rows ++ [[]])))
      | some _ => none)
    path false root

end Entries

mutual

/-- The value of a completed entry. -/
def Item.toValue : Item → Value
  | .value value => value
  | .table _ _ entries => .table (entriesToValues entries)
  | .tables rows => .array (rowsToValues rows)

/-- The values of completed entries. -/
def entriesToValues : List (String × Item) → List (String × Value)
  | [] => []
  | (key, item) :: rest => (key, item.toValue) :: entriesToValues rest

/-- The tables of a completed array. -/
def rowsToValues : List (List (String × Item)) → List Value
  | [] => []
  | row :: rest => .table (entriesToValues row) :: rowsToValues rest

end

end StructureLint.Toml
