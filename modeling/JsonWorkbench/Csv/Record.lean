/-!
# Records of Fields

A table as text: one record on a line, fields between separators. A field in quotes may hold
separators, line breaks and, written twice, quotes; what stands behind its closing quote still
belongs to it. Empty lines are no records. A mark of byte order at the start is skipped.

Writing quotes only the fields that need it, and a record that is a single empty field.

## Main definitions

* `Reader`, `readRecords` — the records of a text.
* `writeField`, `writeRecord` — a record as text.
-/

namespace JsonWorkbench.Csv

/-- The fields of a line. -/
abbrev Record := List (List Char)

/-! ### Reading -/

/-- Where the reader stands. -/
inductive State where
  /-- Before a record. -/
  | betweenRecords
  /-- Before a field. -/
  | fieldStart
  /-- In a field without quotes, or behind the closing quote. -/
  | inField
  /-- In a field with quotes. -/
  | inQuotes
  /-- Behind a quote in a field with quotes. -/
  | afterQuote
  deriving Repr, DecidableEq

/-- Whether a character ends a line. -/
def endsLine (c : Char) : Bool := c == '\n' || c == '\r'

/-- What has been read. The lists have the latest first. -/
structure Reader where
  /-- Where the reader stands. -/
  state : State
  /-- The characters of the current field. -/
  field : List Char
  /-- The fields before it in its record. -/
  fields : List (List Char)
  /-- The records before. -/
  records : List Record
  deriving Repr, DecidableEq

namespace Reader

/-- Before a text. -/
def start : Reader := { state := .betweenRecords, field := [], fields := [], records := [] }

/-- One more character in the current field. -/
def push (r : Reader) (c : Char) (state : State) : Reader :=
  { r with field := c :: r.field, state }

/-- The end of the current field. -/
def endField (r : Reader) : Reader :=
  { r with field := [], fields := r.field.reverse :: r.fields, state := .fieldStart }

/-- The end of the current record. -/
def endRecord (r : Reader) : Reader :=
  { state := .betweenRecords, field := [], fields := []
    records := r.endField.fields.reverse :: r.records }

/-- A character outside of quotes. -/
def stepPlain (separator : Char) (r : Reader) (c : Char) : Reader :=
  if c == separator then r.endField
  else if endsLine c then r.endRecord
  else r.push c .inField

/-- A character. -/
def step (separator : Char) (r : Reader) (c : Char) : Reader :=
  match r.state with
  | .betweenRecords =>
    if endsLine c then r
    else if c == '"' then { r with state := .inQuotes }
    else r.stepPlain separator c
  | .fieldStart => if c == '"' then { r with state := .inQuotes } else r.stepPlain separator c
  | .inField => r.stepPlain separator c
  | .inQuotes => if c == '"' then { r with state := .afterQuote } else r.push c .inQuotes
  | .afterQuote => if c == '"' then r.push c .inQuotes else r.stepPlain separator c

/-- The records at the end of a text. -/
def finish (r : Reader) : List Record :=
  match r.state with
  | .betweenRecords => r.records.reverse
  | _ => r.endRecord.records.reverse

end Reader

/-- The records of a text. -/
def readRecords (separator : Char) (cs : List Char) : List Record :=
  let text :=
    match cs with
    | '\uFEFF' :: rest => rest
    | _ => cs
  (text.foldl (Reader.step separator) .start).finish

/-! ### Writing -/

/-- A character because of which a field needs quotes. -/
def needsQuotes (separator c : Char) : Bool := c == separator || c == '"' || endsLine c

/-- A field, in quotes if it needs them. -/
def writeField (separator : Char) (field : List Char) : List Char :=
  if field.any (needsQuotes separator) then
    '"' :: (field.flatMap (fun c => if c == '"' then [c, c] else [c]) ++ ['"'])
  else field

/-- A record, with its line feed. -/
def writeRecord (separator : Char) (record : Record) : List Char :=
  match record with
  | [[]] => ['"', '"', '\n']
  | _ => ((record.map (writeField separator)).intersperse [separator]).flatten ++ ['\n']

end JsonWorkbench.Csv
