import JsonWorkbench.Decimal.Layout
import JsonWorkbench.Text.Hexadecimal
import JsonWorkbench.Text.Lines
import JsonWorkbench.Yaml.CoreScalar

/-!
# Writing YAML

Collections are written by indentation, two columns for a level; a sequence that is the value of a
key is not indented. A text is written plain if it reads back as that text, else in single quotes,
and in double quotes with escapes if it has characters that need them. A text with a line feed is
a literal block.

## Main definitions

* `Traits`, `traits` — what decides on the style of a text.
* `Style`, `styleOf` — the styles.
* `writeScalar`, `writeBody` — a scalar, and the lines of a collection.
* `write` — a whole value.
-/

namespace JsonWorkbench.Yaml

/-! ### Characters -/

/-- A line break for the writer, which writes any of them as it is. -/
def breaksLine (c : Char) : Bool :=
  c == '\n' || c == '\r' || c == '\u0085' || c == '\u2028' || c == '\u2029'

/-- A blank, a line break, or the null character. -/
def separates (c : Char) : Bool := c == ' ' || c == '\t' || c == '\x00' || breaksLine c

/-- A character that is written as it is. -/
def isWritable (c : Char) : Bool :=
  let n := c.toNat
  n == 0x0A || (0x20 ≤ n && n ≤ 0x7E) || (0xA0 ≤ n && n ≤ 0xD7FF) ||
    (0xE000 ≤ n && n ≤ 0xFFFD && n ≠ 0xFEFF)

/-- The letter behind a backslash for a character, if it has one. -/
def escapeLetter? (c : Char) : Option Char :=
  if c == '\x00' then some '0'
  else if c == '\x07' then some 'a'
  else if c == '\x08' then some 'b'
  else if c == '\t' then some 't'
  else if c == '\n' then some 'n'
  else if c == '\x0b' then some 'v'
  else if c == '\x0c' then some 'f'
  else if c == '\r' then some 'r'
  else if c == '\x1b' then some 'e'
  else if c == '"' then some '"'
  else if c == '\\' then some '\\'
  else if c == '\u0085' then some 'N'
  else if c == '\u00a0' then some '_'
  else if c == '\u2028' then some 'L'
  else if c == '\u2029' then some 'P'
  else none

/-- A character in double quotes. -/
def escapeDouble (c : Char) : List Char :=
  if isWritable c && !breaksLine c && c ≠ '"' && c ≠ '\\' then [c]
  else
    match escapeLetter? c with
    | some letter => ['\\', letter]
    | none =>
      let n := c.toNat
      if n ≤ 0xFF then '\\' :: 'x' :: Text.hexText 2 n
      else if n ≤ 0xFFFF then '\\' :: 'u' :: Text.hexText 4 n
      else '\\' :: 'U' :: Text.hexText 8 n

/-! ### Styles -/

/-- What decides on the style of a text. -/
structure Traits where
  /-- There are characters that mean something in the place where they stand. -/
  indicators : Bool
  /-- There are characters that cannot be written as they are. -/
  special : Bool
  /-- There are line breaks. -/
  breaks : Bool
  /-- There is a blank at the start. -/
  leadingSpace : Bool
  /-- There is a blank at the end. -/
  trailingSpace : Bool
  /-- There is a blank behind a line break. -/
  breakSpace : Bool
  /-- There is a line break behind a blank. -/
  spaceBreak : Bool

/-- A character that means something at the start of a text. -/
def isLeadingIndicator (c : Char) (next : Option Char) : Bool :=
  let alone := (next.map separates).getD true
  c == '#' || c == ',' || c == '[' || c == ']' || c == '{' || c == '}' || c == '&' || c == '*' ||
    c == '!' || c == '|' || c == '>' || c == '\'' || c == '"' || c == '%' || c == '@' ||
    c == '\x60' || ((c == '?' || c == ':' || c == '-') && alone)

/-- Whether a text has, behind a character, a colon at the end of a word or a number sign at the
start of one. -/
def hasInnerIndicator : Char → List Char → Bool
  | _, [] => false
  | previous, c :: cs =>
    (c == ':' && (cs.head?.map separates).getD true) || (c == '#' && separates previous) ||
      hasInnerIndicator c cs

/-- Whether a character of one class stands directly before one of another class. -/
def hasPair (p q : Char → Bool) : List Char → Bool
  | c :: d :: cs => (p c && q d) || hasPair p q (d :: cs)
  | _ => false

/-- What decides on the style of a text. -/
def traits (cs : List Char) : Traits :=
  let first := cs.head?
  let last := cs.getLast?
  { indicators :=
      ['-', '-', '-'].isPrefixOf cs || ['.', '.', '.'].isPrefixOf cs ||
        (match cs with
          | [] => false
          | c :: rest => isLeadingIndicator c rest.head? || hasInnerIndicator c rest)
    special := cs.any (!isWritable ·)
    breaks := cs.any breaksLine
    leadingSpace := first == some ' '
    trailingSpace := last == some ' '
    breakSpace := hasPair breaksLine (· == ' ') cs
    spaceBreak := hasPair (· == ' ') breaksLine cs }

/-- Whether a text can be a block. -/
def Traits.allowsBlock (t : Traits) : Bool := !(t.trailingSpace || t.spaceBreak || t.special)

/-- Whether a text can stand in single quotes. -/
def Traits.allowsSingle (t : Traits) : Bool := !(t.breakSpace || t.spaceBreak || t.special)

/-- Whether a text can stand without quotes. -/
def Traits.allowsPlain (t : Traits) : Bool :=
  t.allowsSingle && !(t.indicators || t.breaks || t.leadingSpace || t.trailingSpace)

/-- How a text is written. -/
inductive Style where
  /-- As it is. -/
  | plain
  /-- In single quotes. -/
  | single
  /-- In double quotes. -/
  | double
  /-- As a literal block. -/
  | literal
  deriving Repr, DecidableEq

/-- Whether a text without quotes would be read as that text. -/
def readsAsText (cs : List Char) : Bool :=
  let s := String.ofList cs
  !(s.isEmpty || isNullWord s || (boolWord? s).isSome || (integer? cs).isSome || isZeroLedText cs ||
    (double? cs).isSome)

/-- The style of a text. -/
def styleOf (cs : List Char) : Style :=
  let t := traits cs
  if cs.contains '\n' then if t.allowsBlock then .literal else .double
  else if readsAsText cs && t.allowsPlain then .plain
  else if t.allowsSingle then .single
  else .double

/-! ### Scalars -/

/-- Blanks up to a column. -/
def pad (column : Nat) : List Char := List.replicate column ' '

/-- The inside of single quotes: quotes are doubled, and a line begins at a column. -/
def writeSingle (column : Nat) : Bool → List Char → List Char
  | afterBreak, [] => if afterBreak then pad column else []
  | afterBreak, c :: cs =>
    if breaksLine c then c :: writeSingle column true cs
    else
      (if afterBreak then pad column else []) ++ (if c == '\'' then [c, c] else [c]) ++
        writeSingle column false cs

/-- The lines of a literal block, which begin at a column unless they are empty. -/
def writeLiteral (column : Nat) : Bool → List Char → List Char
  | _, [] => []
  | afterBreak, c :: cs =>
    if breaksLine c then c :: writeLiteral column true cs
    else (if afterBreak then pad column else []) ++ c :: writeLiteral column false cs

/-- What the header of a literal block says: the indentation if the text begins with a blank or
break, and what is kept of the line breaks at its end. -/
def literalHints (cs : List Char) : List Char :=
  let indent := if (cs.head?.map fun c => c == ' ' || breaksLine c).getD false then ['2'] else []
  let chomp :=
    match cs.reverse with
    | [] => ['-']
    | c :: before =>
      if !breaksLine c then ['-']
      else if (before.head?.map breaksLine).getD true then ['+']
      else []
  indent ++ chomp

/-- A text; its further lines begin at a column. -/
def writeText (column : Nat) (cs : List Char) : List Char :=
  match styleOf cs with
  | .plain => cs
  | .single => '\'' :: (writeSingle column false cs ++ ['\''])
  | .double => '"' :: (cs.flatMap escapeDouble ++ ['"'])
  | .literal => '|' :: (literalHints cs ++ '\n' :: writeLiteral column true cs)

/-- A value that takes no lines of its own; the further lines of a text begin at a column. -/
def writeScalar (column : Nat) : Value → List Char
  | .null => ['n', 'u', 'l', 'l']
  | .bool true => ['t', 'r', 'u', 'e']
  | .bool false => ['f', 'a', 'l', 's', 'e']
  | .number (.integer n) => (toString n).toList
  | .number (.double x) => (Decimal.Layout.yaml.render x).toList
  | .string s => writeText column s.toList
  | .array _ => ['[', ']']
  | .object _ => ['{', '}']

/-! ### Collections -/

/-- A text after which a line can begin: a block that ends in a line break needs no other. -/
def endedLine (text : List Char) : List Char :=
  if (text.getLast?.map breaksLine).getD false then text else text ++ ['\n']

/-- Whether a key is written before a colon on one line; else a question mark stands before it. -/
def isSimpleKey (cs : List Char) : Bool :=
  Text.byteLength cs ≤ 128 && !cs.any breaksLine

/-- The entries of a collection, one below the other at a column. -/
def stack (column : Nat) : List (List Char) → List Char
  | [] => []
  | [entry] => entry
  | entry :: entries => endedLine entry ++ pad column ++ stack column entries

mutual

/-- The lines of a collection at a column, the first of them without its indentation. -/
def writeBody (column : Nat) : Value → List Char
  | .array vs => stack column (writeItems column vs)
  | .object ms => stack column (writePairs column ms)
  | _ => []

/-- A value behind a mark that stands at a column. -/
def writeInline (column : Nat) : Value → List Char
  | .array (v :: vs) => ' ' :: stack (column + 2) (writeItems (column + 2) (v :: vs))
  | .object ((k, v) :: ms) => ' ' :: stack (column + 2) (writePairs (column + 2) ((k, v) :: ms))
  | v => ' ' :: writeScalar (column + 2) v

/-- A value behind a key that stands at a column. -/
def writeBelow (column : Nat) : Value → List Char
  | .array (v :: vs) => '\n' :: (pad column ++ stack column (writeItems column (v :: vs)))
  | .object ((k, v) :: ms) =>
    '\n' :: (pad (column + 2) ++ stack (column + 2) (writePairs (column + 2) ((k, v) :: ms)))
  | v => ' ' :: writeScalar (column + 2) v

/-- The items of a sequence at a column. -/
def writeItems (column : Nat) : List Value → List (List Char)
  | [] => []
  | v :: vs => ('-' :: writeInline column v) :: writeItems column vs

/-- The pairs of a mapping at a column. -/
def writePairs (column : Nat) : List (String × Value) → List (List Char)
  | [] => []
  | (k, v) :: ms =>
    let key := writeText (column + 2) k.toList
    let pair :=
      if isSimpleKey k.toList then key ++ ':' :: writeBelow column v
      else endedLine ('?' :: ' ' :: key) ++ pad column ++ ':' :: writeInline column v
    pair :: writePairs column ms

end

/-- The text of a value, which ends where its last line ends. -/
def write (v : Value) : List Char :=
  let body := match v with
    | .array (_ :: _) | .object (_ :: _) => writeBody 0 v
    | _ => writeScalar 2 v
  endedLine body

end JsonWorkbench.Yaml
