import JsonWorkbench.Value.Basic

/-!
# Tables under Construction

A document is put together piece by piece: a header names a table, dotted keys reach into tables
below it. What a later piece may still extend depends on how a table came into being. A table that
only stands on the way to another one is implicit, and a header may still name it; one made by
dotted keys may be extended by dotted keys alone; a value is finished.

A header that names an implicit table moves it behind the tables that are there already.

## Main definitions

* `Origin`, `Node` — tables, rows of tables, and finished values.
* `put?` — a value put under a dotted key.
* `Draft`, `Draft.open?`, `Draft.openRow?`, `Draft.close?` — a document and its current table.
-/

namespace JsonWorkbench.Toml

/-- How a table came into being. -/
inductive Origin where
  /-- Its own header names it. -/
  | header
  /-- It stands on the way of a header to another table. -/
  | onTheWay
  /-- It stands on the way of a dotted key. -/
  | dotted
  deriving Repr, DecidableEq

/-- What stands under a key. -/
inductive Node where
  /-- A value. -/
  | leaf (v : Value)
  /-- A table. -/
  | table (origin : Origin) (entries : List (String × Node))
  /-- A sequence of tables, one for each header. -/
  | rows (tables : List (List (String × Node)))

/-- The entries of a table, in order. -/
abbrev Entries := List (String × Node)

namespace Entries

/-- The entries with the node under a key put in by a function of what is there. A known key keeps
its place, a new one comes last. -/
def alter? (key : String) (f : Option Node → Option Node) : Entries → Option Entries
  | [] => (f none).map fun n => [(key, n)]
  | (k, n) :: es =>
    if k = key then (f (some n)).map fun m => (k, m) :: es
    else (alter? key f es).map fun rest => (k, n) :: rest

/-- The node under a key, and the entries without it. -/
def extract (key : String) : Entries → Option Node × Entries
  | [] => (none, [])
  | (k, n) :: es =>
    if k = key then (some n, es)
    else
      let (found, rest) := extract key es
      (found, (k, n) :: rest)

end Entries

/-- The sequence with its last member changed. -/
def changeLast? (f : α → Option α) : List α → Option (List α)
  | [] => none
  | [x] => (f x).map fun y => [y]
  | x :: xs => (changeLast? f xs).map fun ys => x :: ys

/-- The entries with a change made in the table that the keys on the way lead to. A missing table
is made, and of a sequence of tables the last one counts. -/
def descend? (f : Entries → Option Entries) : List String → Entries → Option Entries
  | [], es => f es
  | key :: path, es =>
    Entries.alter? key (fun found =>
      match found with
      | none => (descend? f path []).map (.table .onTheWay)
      | some (.table origin inner) => (descend? f path inner).map (.table origin)
      | some (.rows tables) => (changeLast? (descend? f path) tables).map .rows
      | some (.leaf _) => none) es

/-- The entries with a value put under a dotted key, which must be new and must lead only through
tables made by dotted keys or, further up, made on the way. `isHere` says that a table of this
origin may take the value. -/
def put? (key : String) (v : Value) : List String → Bool → Entries → Option Entries
  | [], isHere, es =>
    if isHere then
      Entries.alter? key (fun found =>
        match found with
        | none => some (.leaf v)
        | some _ => none) es
    else none
  | step :: path, _, es =>
    Entries.alter? step (fun found =>
      match found with
      | none => (put? key v path true []).map (.table .dotted)
      | some (.table .dotted inner) => (put? key v path true inner).map (.table .dotted)
      | some (.table .onTheWay inner) => (put? key v path false inner).map (.table .onTheWay)
      | some (.table .header _) => none
      | some (.rows tables) => (changeLast? (put? key v path false) tables).map .rows
      | some (.leaf _) => none) es

/-! ### Drafts -/

/-- A document and the table that is being filled. -/
structure Draft where
  /-- The tables that are closed. -/
  root : Entries
  /-- The name of the current table; empty before the first header. -/
  path : List String
  /-- Whether the current table is one of a sequence. -/
  isRow : Bool
  /-- The entries of the current table. -/
  current : Entries

namespace Draft

/-- A document with nothing in it. -/
def empty : Draft := { root := [], path := [], isRow := false, current := [] }

/-- The document with the current table put in its place. -/
def close? (d : Draft) : Option Entries :=
  match d.path.getLast? with
  | none => some d.current
  | some key =>
    descend? (Entries.alter? key fun found =>
      match found with
      | none => some (if d.isRow then .rows [d.current] else .table .header d.current)
      | some (.rows tables) => if d.isRow then some (.rows (tables ++ [d.current])) else none
      | _ => none) d.path.dropLast d.root

/-- The node under a name, with the entries without it; tables on the way are made. -/
def takeOut? (key : String) (path : List String) (root : Entries) :
    Option (Option Node × Entries) :=
  match descend? some path root with
  | none => none
  | some made =>
    let found := look path made
    (descend? (fun es => some (Entries.extract key es).2) path made).map fun rest => (found, rest)
where
  /-- The node under the key below the tables on the way. -/
  look : List String → Entries → Option Node
    | [], es => (Entries.extract key es).1
    | step :: path, es =>
      match (Entries.extract step es).1 with
      | some (.table _ inner) => look path inner
      | some (.rows tables) => look path (tables.getLast?.getD [])
      | _ => none

/-- The document with a table begun by a header. The table must be new or stand on the way to
others. -/
def open? (d : Draft) (path : List String) : Option Draft :=
  match d.close?, path.getLast? with
  | some root, some key =>
    match takeOut? key path.dropLast root with
    | some (none, root) => some { root, path, isRow := false, current := [] }
    | some (some (.table .onTheWay current), root) => some { root, path, isRow := false, current }
    | _ => none
  | _, _ => none

/-- The document with a table of a sequence begun by a header. There must be no other thing of
that name. -/
def openRow? (d : Draft) (path : List String) : Option Draft :=
  match d.close?, path.getLast? with
  | some root, some key =>
    (descend? (Entries.alter? key fun found =>
      match found with
      | none => some (.rows [])
      | some (.rows tables) => some (.rows tables)
      | _ => none) path.dropLast root).map
      fun root => { root, path, isRow := true, current := [] }
  | _, _ => none

/-- The document with a value put into the current table under a dotted key. -/
def assign? (d : Draft) (path : List String) (v : Value) : Option Draft :=
  match path.getLast? with
  | none => none
  | some key =>
    (put? key v path.dropLast true d.current).map fun current => { d with current }

end Draft

mutual

/-- The value of a node. -/
def Node.value : Node → Value
  | .leaf v => v
  | .table _ es => .object (entriesValue es)
  | .rows tables => .array (rowsValue tables)

/-- The members of a table. -/
def entriesValue : List (String × Node) → List (String × Value)
  | [] => []
  | (k, n) :: es => (k, n.value) :: entriesValue es

/-- The items of a sequence of tables. -/
def rowsValue : List (List (String × Node)) → List Value
  | [] => []
  | es :: rest => .object (entriesValue es) :: rowsValue rest

end

end JsonWorkbench.Toml
