import JsonWorkbench.Toml.DateTime
import JsonWorkbench.Toml.Number
import JsonWorkbench.Toml.Quoted
import JsonWorkbench.Toml.Tree

/-!
# Reading TOML

A text is a sequence of lines, each with a header, a key and its value, or nothing; a value may go
on over several lines. A failure is told by its line: that of the place where the reading stopped,
or, if a key or a table may not be there, that where the line began.

## Main definitions

* `scanKey`, `scanValue` — the pieces of a line.
* `scanStatement` — a line.
* `read` — the value of a text, or the line of the failure.
-/

namespace JsonWorkbench.Toml

/-! ### Keys -/

/-- A character of a key without quotes. -/
def isBareChar (c : Char) : Bool := c.isAlphanum || c == '_' || c == '-'

/-- A single key. -/
def scanSimpleKey (cs : List Char) : Except Failure (String × List Char) :=
  match cs with
  | '"' :: rest => (scanBasic rest).map fun (s, behind) => (String.ofList s, behind)
  | '\'' :: rest => (scanLiteral rest).map fun (s, behind) => (String.ofList s, behind)
  | _ =>
    let (name, rest) := cs.span isBareChar
    if name.isEmpty then soft cs else .ok (String.ofList name, rest)

/-- Further keys, each behind a dot; the text behind them. Every step takes a character, so their
number is enough fuel. -/
def scanDotted : Nat → List Char → Except Failure (List String × List Char)
  | 0, cs => .ok ([], cs)
  | fuel + 1, cs =>
    match cs with
    | '.' :: rest =>
      match scanSimpleKey (skipBlanks rest) with
      | .error f => if f.isFinal then .error f else .ok ([], cs)
      | .ok (key, behind) =>
        (scanDotted fuel (skipBlanks behind)).map fun (keys, last) => (key :: keys, last)
    | _ => .ok ([], cs)

/-- The greatest number of keys in a dotted key, and of brackets around a value. -/
def maxDepth : Nat := 79

/-- A key with dots, and blanks around it. -/
def scanKey (cs : List Char) : Except Failure (List String × List Char) := do
  let (key, rest) ← scanSimpleKey (skipBlanks cs)
  let (keys, behind) ← scanDotted rest.length (skipBlanks rest)
  let path := key :: keys
  if path.length ≤ maxDepth then return (path, behind) else soft cs

/-! ### Values -/

/-- A number, a date or a time. -/
def scanNumeric (cs : List Char) : Except Failure (Value × List Char) :=
  orElse
    ((scanDateTime cs).map fun (text, rest) => (.string (String.ofList text), rest))
    fun _ =>
      orElse
        ((scanDouble cs).map fun (x, rest) => ((Value.ofFloat? x).getD .null, rest))
        fun _ => (scanInteger cs).map fun (n, rest) => (.int n, rest)

/-- A value that is no container. -/
def scanScalar (cs : List Char) : Except Failure (Value × List Char) :=
  match cs with
  | [] => soft []
  | c :: _ =>
    if c == '"' || c == '\'' then
      (scanString cs).map fun (s, rest) => (.string (String.ofList s), rest)
    else if c == '+' || c == '-' || c.isDigit then scanNumeric cs
    else if c == 't' then (expectWord "true".toList cs).map fun rest => (.bool true, rest)
    else if c == 'f' then (expectWord "false".toList cs).map fun rest => (.bool false, rest)
    else if c == 'i' || c == 'n' then (scanWordDouble cs).map fun (_, rest) => (.null, rest)
    else soft cs

/-- The entries of a table in braces. -/
def entriesOf? (pairs : List (List String × Value)) : Option Entries :=
  pairs.foldlM
    (fun es (path, v) => path.getLast?.bind fun key => put? key v path.dropLast true es) []

mutual

/-- A value. `room` is the number of brackets that may still be opened. -/
def scanValue : Nat → Nat → List Char → Except Failure (Value × List Char)
  | 0, _, cs => final cs
  | fuel + 1, room, cs =>
    match cs with
    | '[' :: rest =>
      match room with
      | 0 => final cs
      | room + 1 =>
        match rest with
        | ']' :: behind => .ok (.array [], behind)
        | _ =>
          match scanItems fuel room true rest with
          | .error f => .error f
          | .ok (items, behind) => closeArray items behind
    | '{' :: rest =>
      match room with
      | 0 => final cs
      | room + 1 =>
        match scanPairs fuel room true rest with
        | .error f => .error f
        | .ok (pairs, behind) =>
          match entriesOf? pairs, skipBlanks behind with
          | none, _ => final rest
          | some es, '}' :: last => .ok (.object (entriesValue es), last)
          | some _, last => final last
    | _ => scanScalar cs
termination_by structural fuel => fuel

/-- The items of an array and the text behind the last one; before all but the first stands a
comma. Where no item can be read, the items end before the comma. -/
def scanItems : Nat → Nat → Bool → List Char → Except Failure (List Value × List Char)
  | 0, _, _, cs => final cs
  | fuel + 1, room, first, cs =>
    let start? : Option (List Char) :=
      if first then some cs
      else
        match cs with
        | ',' :: rest => some rest
        | _ => none
    match start? with
    | none => .ok ([], cs)
    | some start =>
      match scanItem fuel room start with
      | .error f => if f.isFinal then .error f else .ok ([], cs)
      | .ok (v, behind) =>
        (scanItems fuel room false behind).map fun (vs, last) => (v :: vs, last)
termination_by structural fuel => fuel

/-- An item of an array, with what stands around it. -/
def scanItem : Nat → Nat → List Char → Except Failure (Value × List Char)
  | 0, _, cs => final cs
  | fuel + 1, room, cs =>
    match skipGap cs with
    | .error f => .error f
    | .ok start =>
      match scanValue fuel room start with
      | .error f => .error f
      | .ok (v, behind) => (skipGap behind).map fun last => (v, last)
termination_by structural fuel => fuel

/-- The pairs of a table in braces and the text behind the last one; before all but the first
stands a comma. Where no key can be read, the pairs end before the comma. -/
def scanPairs : Nat → Nat → Bool → List Char →
    Except Failure (List (List String × Value) × List Char)
  | 0, _, _, cs => final cs
  | fuel + 1, room, first, cs =>
    let start? : Option (List Char) :=
      if first then some cs
      else
        match cs with
        | ',' :: rest => some rest
        | _ => none
    match start? with
    | none => .ok ([], cs)
    | some start =>
      match scanKey start with
      | .error f => if f.isFinal then .error f else .ok ([], cs)
      | .ok (path, '=' :: rest) =>
        match scanValue fuel room (skipBlanks rest) with
        | .error f => .error { f with isFinal := true }
        | .ok (v, behind) =>
          (scanPairs fuel room false (skipBlanks behind)).map fun (pairs, last) =>
            ((path, v) :: pairs, last)
      | .ok (_, rest) => final rest
termination_by structural fuel => fuel

/-- An array whose items have been read: a comma may follow the last one. -/
def closeArray (items : List Value) (cs : List Char) : Except Failure (Value × List Char) :=
  let rest :=
    match items, cs with
    | _ :: _, ',' :: behind => behind
    | _, _ => cs
  match skipGap rest with
  | .error f => .error { f with isFinal := true }
  | .ok (']' :: behind) => .ok (.array items, behind)
  | .ok last => final last

end

/-! ### Lines -/

/-- A key with its value. A failure to put it into the table is one of the whole line. -/
def scanAssignment (d : Draft) (cs : List Char) : Except Failure (Draft × List Char) := do
  let (path, rest) ← scanKey cs
  let behind ← expect '=' rest
  let value := skipBlanks behind
  let (v, rest) ← scanValue (4 * value.length + 8) maxDepth value
  let rest ← finishLine rest
  match d.assign? path v with
  | some d => return (d, rest)
  | none => soft cs

/-- A header. A failure to begin the table is one of the whole line. -/
def scanHeader (d : Draft) (cs : List Char) : Except Failure (Draft × List Char) := do
  let isRow := ['[', '['].isPrefixOf cs
  let (path, rest) ← scanKey (cs.drop (if isRow then 2 else 1))
  let rest ← expectWord (if isRow then [']', ']'] else [']']) rest
  let rest ← finishLine rest
  match if isRow then d.openRow? path else d.open? path with
  | some d => return (d, rest)
  | none => soft cs

/-- A line that is not empty. -/
def scanStatement (d : Draft) (cs : List Char) : Except Failure (Draft × List Char) :=
  match cs with
  | '#' :: _ => (finishLine cs).map fun rest => (d, rest)
  | '[' :: _ => scanHeader d cs
  | c :: _ =>
    if c == '\n' || c == '\r' then (lineEnd cs).map fun rest => (d, rest) else scanAssignment d cs
  | [] => .ok (d, [])

/-- The lines of a text. Every step takes a character, so their number is enough fuel. -/
def scanStatements : Nat → Draft → List Char → Except Failure Draft
  | 0, d, _ => .ok d
  | fuel + 1, d, cs =>
    match skipBlanks cs with
    | [] => .ok d
    | c :: rest =>
      match scanStatement d (c :: rest) with
      | .error f => .error f
      | .ok (d, behind) => scanStatements fuel d behind

/-- The number of line feeds in a text. -/
def lineFeeds (cs : List Char) : Nat := cs.count '\n'

/-- The value of a text, or the number of the line where reading it fails. A mark of byte order at
the start is skipped. -/
def read (cs : List Char) : Except Nat Value :=
  let text :=
    match cs with
    | '\uFEFF' :: rest => rest
    | _ => cs
  match scanStatements (text.length + 1) .empty text with
  | .error f => .error (lineFeeds text - lineFeeds f.left + 1)
  | .ok d =>
    match d.close? with
    | some es => .ok (.object (entriesValue es))
    | none => .error 1

end JsonWorkbench.Toml
