import NotificationTap.Mismatch

/-!
# TOML values and tables

* `Toml.Value`, `Toml.Table`: a document is a table, a list of entries in the order in which their
  keys first appear.
* `Toml.Origin`: how a table came to be. That decides what may still be added to it.
* `Table.assign`: stores a value under a dotted key.
* `Table.openHeader`, `Table.closeHeader`, `Table.openElement`, `Table.closeElement`: a header
  `[a.b]` or `[[a.b]]` starts a table, whose entries are stored once the next header starts.
-/

namespace NotificationTap.Toml

/-- How a table came to be. -/
inductive Origin where
  /-- Its own header. -/
  | header
  /-- The header of a table inside it. -/
  | implied
  /-- A dotted key. -/
  | dotted
  /-- Braces. -/
  | inline
deriving DecidableEq, Repr

/-- A value of a document. -/
inductive Value where
  | string (value : String)
  | integer (value : Int)
  | double (value : Float)
  | boolean (value : Bool)
  | dateTime
  | array (items : List Value)
  | table (origin : Origin) (entries : List (String × Value))
  /-- The tables of `[[…]]` headers with one name. -/
  | tables (elements : List (List (String × Value)))

instance : Inhabited Value := ⟨.dateTime⟩

/-- The entries of a table. -/
abbrev Table := List (String × Value)

namespace Table

/-- Whether a key is taken. -/
def contains (key : String) (table : Table) : Bool := (table.lookup key).isSome

/-- Stores a value in the place of the value under that key, or at the end. -/
def store (key : String) (value : Value) : Table → Table
  | [] => [(key, value)]
  | (k, v) :: rest => if k = key then (key, value) :: rest else (k, v) :: store key value rest

/-- Removes an entry. -/
def remove (key : String) : Table → Table
  | [] => []
  | (k, v) :: rest => if k = key then rest else (k, v) :: remove key rest

/-- Stores a value under a new dotted key. The keys before the last name tables that dotted keys
have made, or make them; those before the last of these may also be tables that a header inside
them implied. -/
def assign : List String → String → Value → Table → Option Table
  | [], key, value, table => if table.contains key then none else some (table ++ [(key, value)])
  | p :: path, key, value, table =>
    match table.lookup p with
    | none => (assign path key value []).map fun inner => table ++ [(p, .table .dotted inner)]
    | some (.table .dotted inner) =>
      (assign path key value inner).map fun inner => table.store p (.table .dotted inner)
    | some (.table .implied inner) =>
      if path.isEmpty then none
      else (assign path key value inner).map fun inner => table.store p (.table .implied inner)
    | some (.tables elements) =>
      if path.isEmpty then none
      else do
        let inner ← assign path key value (← elements.getLast?)
        return table.store p (.tables (elements.dropLast ++ [inner]))
    | some _ => none

/-- Changes the table that a header's keys lead to; `[[…]]` keys lead to their last element, and a
key that is not there yet to a new, implied table. -/
def modifyAt (change : Table → Option (Table × α)) : List String → Table → Option (Table × α)
  | [], table => change table
  | p :: path, table =>
    match table.lookup p with
    | none =>
      (modifyAt change path []).map fun (inner, a) => (table ++ [(p, .table .implied inner)], a)
    | some (.table .inline _) => none
    | some (.table origin inner) =>
      (modifyAt change path inner).map fun (inner, a) => (table.store p (.table origin inner), a)
    | some (.tables elements) => do
      let (inner, a) ← modifyAt change path (← elements.getLast?)
      return (table.store p (.tables (elements.dropLast ++ [inner])), a)
    | some _ => none

/-- Starts the table of a header: the entries that an implied table already has are taken out. -/
def openHeader (path : List String) (key : String) (root : Table) : Option (Table × Table) :=
  modifyAt (fun table =>
    match table.lookup key with
    | none => some (table, [])
    | some (.table .implied entries) => some (table.remove key, entries)
    | some _ => none) path root

/-- Stores the table of a header. -/
def closeHeader (path : List String) (key : String) (root entries : Table) : Option Table :=
  (modifyAt (fun table =>
    if table.contains key then none
    else some (table ++ [(key, .table .header entries)], ())) path root).map (·.1)

/-- Starts a table of a `[[…]]` header. -/
def openElement (path : List String) (key : String) (root : Table) : Option Table :=
  (modifyAt (fun table =>
    match table.lookup key with
    | none => some (table ++ [(key, .tables [])], ())
    | some (.tables _) => some (table, ())
    | some _ => none) path root).map (·.1)

/-- Stores the table of a `[[…]]` header after the others of its name. -/
def closeElement (path : List String) (key : String) (root entries : Table) : Option Table :=
  (modifyAt (fun table =>
    match table.lookup key with
    | some (.tables elements) => some (table.store key (.tables (elements ++ [entries])), ())
    | _ => none) path root).map (·.1)

end Table

end NotificationTap.Toml
