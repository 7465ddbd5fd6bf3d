import JsonWorkbench.Csv.Record
import JsonWorkbench.Error
import JsonWorkbench.Json.Printer
import JsonWorkbench.Text.Blank
import JsonWorkbench.Value.Numeral

/-!
# Tables of Documents

An array of objects as a table: the columns are the keys of all rows in the order in which they
come first, a missing member and a null are an empty cell, and a container is its JSON text.
Reading a table back, an empty cell is null, a number or truth value is one, and everything else
is text, with its blanks.

## Main definitions

* `Options` — the separator, and whether the first line names the columns.
* `columnsOf`, `cellText`, `encode` — writing.
* `cellValue`, `decode` — reading.
-/

namespace JsonWorkbench.Csv

/-- How a table is written. -/
structure Options where
  /-- What stands between fields. -/
  separator : Char := ','
  /-- Whether the first line names the columns. -/
  headers : Bool := true
  deriving Repr, DecidableEq

/-! ### Writing -/

/-- The members of each row; all rows must be objects. -/
def rowMembers : Nat → List Value → Except Error (List Members)
  | _, [] => .ok []
  | number, v :: vs =>
    match v with
    | .object ms => (rowMembers (number + 1) vs).map (ms :: ·)
    | _ => .error (.mismatch (.tableRow number))

/-- The keys of all rows in the order in which they come first. -/
def columnsOf (rows : List Members) : List String :=
  rows.foldl (fun columns ms =>
    ms.keys.foldl (fun columns k => if columns.contains k then columns else columns ++ [k]) columns)
    []

/-- The text of a cell. -/
def cellText : Option Value → List Char
  | none => []
  | some .null => []
  | some (.string s) => s.toList
  | some v => Json.write .compact 0 v

/-- The text of an array of objects, without the line feeds at its end. -/
def encode (o : Options) : Value → Except Error String
  | .array vs => do
    let rows ← rowMembers 0 vs
    let columns := columnsOf rows
    let header := if o.headers then [columns.map String.toList] else []
    let body := rows.map fun ms => columns.map fun c => cellText (ms.get? c)
    let records := if columns.isEmpty then [] else header ++ body
    let text := records.flatMap (writeRecord o.separator)
    return String.ofList (Text.dropEndWhile (· == '\n') text)
  | _ => .error (.mismatch .tableInput)

/-! ### Reading -/

/-- The value of a cell. -/
def cellValue (cs : List Char) : Value :=
  let trimmed := Text.trim cs
  if trimmed.isEmpty then .null
  else
    match coerceNumber? (String.ofList trimmed) with
    | some v => v
    | none =>
      if trimmed = "true".toList then .bool true
      else if trimmed = "false".toList then .bool false
      else .string (String.ofList cs)

/-- Whether a record is a single field of blanks. -/
def isBlankRecord (r : Record) : Bool :=
  match r with
  | [field] => (Text.trim field).isEmpty
  | _ => false

/-- The members of a row: missing cells are null, and cells without a column are dropped. -/
def rowObject : List String → Record → List (String × Value)
  | [], _ => []
  | c :: columns, [] => (c, .null) :: rowObject columns []
  | c :: columns, field :: fields => (c, cellValue field) :: rowObject columns fields

/-- The value of a text: an array of objects, or without a line of names an array of arrays. -/
def decode (o : Options) (text : String) : Value :=
  let records := (readRecords o.separator text.toList).filter fun r => !isBlankRecord r
  if o.headers then
    match records with
    | [] => .array []
    | header :: body =>
      let columns := header.map fun field => String.ofList (Text.trim field)
      .array (body.map fun r => .object (Members.ofPairs (rowObject columns r)))
  else .array (records.map fun r => .array (r.map cellValue))

end JsonWorkbench.Csv
