import JsonWorkbench.Decimal.Layout
import JsonWorkbench.Error
import JsonWorkbench.Text.Hexadecimal

/-!
# Writing TOML

An object whose place allows it is a table with a header of its own, a sequence of objects a
sequence of such tables; everything else stands on the line of its key. A table is written before
the tables inside it, and its plain members before them. A header that names only the way to other
tables is left out.

There is no null: null members and items are left out.

## Main definitions

* `withoutNulls` — a value without nulls, if its integers are small enough.
* `writeString`, `writeKey`, `writeLine` — the pieces of a line.
* `writeTables` — the tables of a document.
-/

namespace JsonWorkbench.Toml

/-! ### Values that can be written -/

mutual

/-- A value without nulls, nothing for a null. Integers with more than 63 bits cannot be
written. -/
def withoutNulls (location : String) : Value → Except Error (Option Value)
  | .null => .ok none
  | .number (.integer n) =>
    if n ≤ Number.greatestSigned then .ok (some (.int n))
    else .error (.integerTooGreat location n)
  | .array vs => (itemsWithoutNulls location 0 vs).map fun ws => some (.array ws)
  | .object ms => (membersWithoutNulls location ms).map fun ws => some (.object ws)
  | v => .ok (some v)

/-- The items of an array without nulls. -/
def itemsWithoutNulls (location : String) (index : Nat) : List Value → Except Error (List Value)
  | [] => .ok []
  | v :: vs => do
    let w ← withoutNulls (location ++ "[" ++ toString index ++ "]") v
    let ws ← itemsWithoutNulls location (index + 1) vs
    return w.toList ++ ws

/-- The members of an object without nulls. -/
def membersWithoutNulls (location : String) : List (String × Value) →
    Except Error (List (String × Value))
  | [] => .ok []
  | (k, v) :: ms => do
    let w ← withoutNulls (location ++ "." ++ k) v
    let ws ← membersWithoutNulls location ms
    return (w.map fun x => (k, x)).toList ++ ws

end

/-! ### Strings -/

/-- The length of the longest run of a character; `run` is the length of the run that ends here. -/
def longestRun (x : Char) : Nat → List Char → Nat
  | run, [] => run
  | run, c :: cs =>
    if c == x then longestRun x (run + 1) cs else max run (longestRun x 0 cs)

/-- A character that can be written only by an escape. -/
def needsEscape (c : Char) : Bool :=
  (c.toNat < 0x20 && c ≠ '\t' && c ≠ '\n') || c == '\x7f'

/-- A character in double quotes. `long` says that line feeds are kept, and `quotes` is the number
of quotes directly before it, of which `long` allows two. -/
def escapeFrom (long : Bool) : Nat → List Char → List Char
  | _, [] => []
  | quotes, c :: cs =>
    let go (text : List Char) : List Char := text ++ escapeFrom long 0 cs
    if c == '"' then
      if quotes < (if long then 2 else 0) then c :: escapeFrom long (quotes + 1) cs
      else go ['\\', '"']
    else if c == '\x08' then go ['\\', 'b']
    else if c == '\t' then go ['\\', 't']
    else if c == '\n' then go (if long then ['\n'] else ['\\', 'n'])
    else if c == '\x0c' then go ['\\', 'f']
    else if c == '\r' then go ['\\', 'r']
    else if c == '\\' then go ['\\', '\\']
    else if needsEscape c then go ('\\' :: 'u' :: Text.hexText 4 c.toNat)
    else go [c]

/-- A text in double quotes. -/
def writeBasic (cs : List Char) : List Char := '"' :: (escapeFrom false 0 cs ++ ['"'])

/-- A text in single quotes. -/
def writeLiteral (cs : List Char) : List Char := '\'' :: (cs ++ ['\''])

/-- Three quotes of a kind, with a line feed behind them if the text has any. -/
def longQuotes (quote : Char) (cs : List Char) : List Char :=
  List.replicate 3 quote ++ (if cs.contains '\n' then ['\n'] else [])

/-- A text in three double quotes. -/
def writeLongBasic (cs : List Char) : List Char :=
  longQuotes '"' cs ++ escapeFrom true 0 cs ++ List.replicate 3 '"'

/-- A text in three single quotes. -/
def writeLongLiteral (cs : List Char) : List Char :=
  longQuotes '\'' cs ++ cs ++ List.replicate 3 '\''

/-- A text in the first of the four kinds of quotes in which it needs no escapes: double, single,
three double, three single. A text that needs some anyway is in double quotes, three of them if it
has line feeds. -/
def writeString (cs : List Char) : List Char :=
  let control := cs.any needsEscape
  let backslash := cs.contains '\\'
  let lines := cs.contains '\n'
  let singles := longestRun '\'' 0 cs
  let doubles := longestRun '"' 0 cs
  if !control && !backslash && doubles = 0 && !lines then writeBasic cs
  else if !control && singles = 0 && !lines then writeLiteral cs
  else if !control && !backslash && doubles ≤ 2 then writeLongBasic cs
  else if !control && singles ≤ 2 then writeLongLiteral cs
  else if lines then writeLongBasic cs
  else writeBasic cs

/-- A key: without quotes if it consists of letters, digits, underscores and hyphens, else in the
first kind of quotes in which it needs no escapes. -/
def writeKey (k : String) : List Char :=
  let cs := k.toList
  let control := cs.any fun c => needsEscape c || c == '\n'
  if !cs.isEmpty && cs.all fun c => c.isAlphanum || c == '_' || c == '-' then cs
  else if !control && !cs.contains '\\' && !cs.contains '"' then writeBasic cs
  else if !control && !cs.contains '\'' then writeLiteral cs
  else writeBasic cs

/-! ### Lines -/

/-- Texts with a comma and a blank between them. -/
def commaSeparated : List (List Char) → List Char
  | [] => []
  | [text] => text
  | text :: texts => text ++ ',' :: ' ' :: commaSeparated texts

mutual

/-- A value on the line of its key. -/
def writeValue : Value → List Char
  | .null => []
  | .bool true => "true".toList
  | .bool false => "false".toList
  | .number (.integer n) => (toString n).toList
  | .number (.double x) => (Decimal.Layout.toml.render x).toList
  | .string s => writeString s.toList
  | .array vs => '[' :: (commaSeparated (writeItems vs) ++ [']'])
  | .object [] => ['{', '}']
  | .object (m :: ms) => '{' :: ' ' :: (commaSeparated (writeMembers (m :: ms)) ++ [' ', '}'])

/-- The items of an array. -/
def writeItems : List Value → List (List Char)
  | [] => []
  | v :: vs => writeValue v :: writeItems vs

/-- The members of a table in braces. -/
def writeMembers : List (String × Value) → List (List Char)
  | [] => []
  | (k, v) :: ms => (writeKey k ++ ' ' :: '=' :: ' ' :: writeValue v) :: writeMembers ms

end

/-- A key with its value, and the line feed. -/
def writeLine (k : String) (v : Value) : List Char :=
  writeKey k ++ ' ' :: '=' :: ' ' :: (writeValue v ++ ['\n'])

/-! ### Tables -/

/-- Whether a value is an object. -/
def isObject : Value → Bool
  | .object _ => true
  | _ => false

/-- Whether a value is written as a table or as a sequence of tables. -/
def isTabular : Value → Bool
  | .object _ => true
  | .array (v :: vs) => isObject v && vs.all isObject
  | _ => false

/-- The lines of the members that are no tables. -/
def writeLines (ms : List (String × Value)) : List Char :=
  ms.flatMap fun (k, v) => if isTabular v then [] else writeLine k v

/-- A header in so many brackets. -/
def writeHeader (brackets : Nat) (path : List (List Char)) : List Char :=
  List.replicate brackets '[' ++ (path.intersperse ['.']).flatten ++
    List.replicate brackets ']' ++ ['\n']

mutual

/-- The tables for a value under a key, with the header of its path. -/
def writeTable (path : List (List Char)) : Value → List (List Char)
  | .object ms =>
    let lines := writeLines ms
    let own := if ms.isEmpty || !lines.isEmpty then [writeHeader 1 path ++ lines] else []
    own ++ writeTables path ms
  | .array vs => if isTabular (.array vs) then writeRows path vs else []
  | _ => []

/-- The tables for the members of a table that are tables, in order. -/
def writeTables (path : List (List Char)) : List (String × Value) → List (List Char)
  | [] => []
  | (k, v) :: ms => writeTable (path ++ [writeKey k]) v ++ writeTables path ms

/-- A table of a sequence, and the tables in it. -/
def writeRow (path : List (List Char)) : Value → List (List Char)
  | .object ms => (writeHeader 2 path ++ writeLines ms) :: writeTables path ms
  | _ => []

/-- The tables of a sequence. -/
def writeRows (path : List (List Char)) : List Value → List (List Char)
  | [] => []
  | v :: vs => writeRow path v ++ writeRows path vs

end

/-- A document of members without nulls: the lines of the members that are no tables, then the
tables, with empty lines between them. -/
def write (ms : List (String × Value)) : List Char :=
  let lines := writeLines ms
  let parts := (if lines.isEmpty then [] else [lines]) ++ writeTables [] ms
  (parts.intersperse ['\n']).flatten

end JsonWorkbench.Toml
