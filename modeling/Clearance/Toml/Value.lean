/-
TOML values, and tables while a text is being read. A table keeps in mind
how it came to be, because that decides what may be added to it later:
a header defines a table once, and dotted keys extend only tables that
dotted keys made.
-/

namespace Clearance.Toml

/-- A value. Of dates and times nothing is kept. -/
inductive Value where
  | text (value : String)
  | integer (value : Int)
  | real (value : Float)
  | flag (value : Bool)
  | time
  | list (items : List Value)
  | table (entries : List (String × Value))

instance : Inhabited Value := ⟨.time⟩

/-- How a table came to be. -/
inductive Origin where
  /-- It has a header, or is the root. -/
  | header
  /-- It stands in the path of a header. -/
  | passed
  /-- It stands in a dotted key. -/
  | dotted
  deriving DecidableEq

/-- What stands under a key while a text is being read. -/
inductive Item where
  | value (value : Value)
  | table (origin : Origin) (entries : List (String × Item))
  /-- Tables with one header; there is at least one. -/
  | tables (earlier : List (List (String × Item))) (last : List (String × Item))

/-- The entries of an open table. -/
abbrev Entries := List (String × Item)

mutual

/-- The value of a complete item. -/
def Item.close : Item → Value
  | .value v => v
  | .table _ entries => .table (closeEntries entries)
  | .tables earlier last => .list (closeTables earlier ++ [.table (closeEntries last)])

/-- The values of complete entries. -/
def closeEntries : List (String × Item) → List (String × Value)
  | [] => []
  | (key, item) :: rest => (key, item.close) :: closeEntries rest

/-- The values of complete tables. -/
def closeTables : List (List (String × Item)) → List Value
  | [] => []
  | entries :: rest => .table (closeEntries entries) :: closeTables rest

end

namespace Entries

/-- The entries with another item under a key that is there. -/
def set (key : String) (item : Item) (entries : Entries) : Entries :=
  entries.map fun entry => if entry.1 == key then (key, item) else entry

/-- Changes the table at the end of a path. Tables that are missing on the
way are made. A header leads into the last of several tables with one
header; a dotted key must not lead into a table with a header. -/
def alter? (dotted : Bool) (change : Origin → Entries → Option Entries) :
    List String → Origin → Entries → Option Entries
  | [], origin, entries => change origin entries
  | key :: path, _, entries =>
    match entries.lookup key with
    | none =>
      let origin := if dotted then .dotted else .passed
      (alter? dotted change path origin []).map fun inner =>
        entries ++ [(key, .table origin inner)]
    | some (.value _) => none
    | some (.table origin inner) =>
      if dotted && origin == .header then none
      else (alter? dotted change path origin inner).map fun inner =>
        set key (.table origin inner) entries
    | some (.tables earlier last) =>
      (alter? dotted change path .header last).map fun last =>
        set key (.tables earlier last) entries

/-- Adds a value under a dotted key, given as its last part and the path
before it. -/
def add? (path : List String) (key : String) (value : Value) :
    Origin → Entries → Option Entries :=
  alter? true
    (fun origin entries =>
      if (origin == .dotted) == path.isEmpty || (entries.lookup key).isSome then none
      else some (entries ++ [(key, .value value)]))
    path

/-- Opens the table of a header. -/
def openTable? (path : List String) (key : String) (root : Entries) : Option Entries :=
  alter? false
    (fun _ entries =>
      match entries.lookup key with
      | none => some (entries ++ [(key, .table .header [])])
      | some (.table .passed inner) => some (set key (.table .header inner) entries)
      | some _ => none)
    path .header root

/-- Opens one more table of a header that may come again. -/
def openNext? (path : List String) (key : String) (root : Entries) : Option Entries :=
  alter? false
    (fun _ entries =>
      match entries.lookup key with
      | none => some (entries ++ [(key, .tables [] [])])
      | some (.tables earlier last) =>
        some (set key (.tables (earlier ++ [last]) []) entries)
      | some _ => none)
    path .header root

end Entries

end Clearance.Toml
