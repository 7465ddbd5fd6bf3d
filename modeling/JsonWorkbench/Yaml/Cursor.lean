/-!
# A Place in a YAML Text

A scan works on the remaining characters together with the line and the column where they begin.
The line breaks of a text are unified first, so that every later rule sees three of them: the
line feed, and the line and paragraph separators, which a scalar keeps as they are.

## Main definitions

* `unifyBreaks` — the text with one character for every ordinary line break.
* `Cursor` — the remaining characters and their place; `Cursor.span` moves over a run.
-/

namespace JsonWorkbench.Yaml

/-- The text with a line feed for each carriage return, pair of both, or next-line character. -/
def unifyBreaks : List Char → List Char
  | [] => []
  | '\r' :: '\n' :: cs => '\n' :: unifyBreaks cs
  | c :: cs => (if c == '\r' || c == '\u0085' then '\n' else c) :: unifyBreaks cs

/-- A line break of a text whose line breaks are unified. -/
def isBreak (c : Char) : Bool := c == '\n' || c == '\u2028' || c == '\u2029'

/-- A blank within a line. -/
def isGap (c : Char) : Bool := c == ' ' || c == '\t'

/-- A blank or a line break. -/
def isGapOrBreak (c : Char) : Bool := isGap c || isBreak c

/-- Whether what follows, if anything, is a blank or a line break. -/
def endsWord : Option Char → Bool
  | none => true
  | some c => isGapOrBreak c

/-- A character of names: a letter or digit of ASCII, an underscore or a hyphen. -/
def isWordChar (c : Char) : Bool := c.isAlphanum || c == '_' || c == '-'

/-- A place: line and column, both counted from zero. -/
structure Mark where
  /-- The line. -/
  line : Nat
  /-- The column, in characters. -/
  column : Nat
  deriving Repr, DecidableEq

/-- The place behind a character at a place. -/
def Mark.step (m : Mark) (c : Char) : Mark :=
  if isBreak c then { line := m.line + 1, column := 0 } else { m with column := m.column + 1 }

/-- The remaining characters of a text. -/
structure Cursor where
  /-- The characters. -/
  rest : List Char
  /-- Where they begin. -/
  mark : Mark
  deriving Repr, DecidableEq

namespace Cursor

/-- The start of a text. -/
def start (cs : List Char) : Cursor := { rest := cs, mark := { line := 0, column := 0 } }

/-- The character that is `k` places ahead. -/
def peek (c : Cursor) (k : Nat) : Option Char := c.rest[k]?

/-- Whether the next character is `x`. -/
def isAt (c : Cursor) (x : Char) : Bool := c.rest.head? == some x

/-- The cursor behind the next character. -/
def next (c : Cursor) : Cursor :=
  match c.rest with
  | [] => c
  | x :: xs => { rest := xs, mark := c.mark.step x }

/-- The cursor behind the next `n` characters. -/
def drop : Nat → Cursor → Cursor
  | 0, c => c
  | n + 1, c => drop n c.next

/-- The longest run of characters of a class, and the cursor behind it. -/
def span (p : Char → Bool) (c : Cursor) : List Char × Cursor :=
  let (run, rest) := c.rest.span p
  (run, { rest, mark := run.foldl Mark.step c.mark })

/-- The cursor behind the longest run of characters of a class. -/
def skipWhile (p : Char → Bool) (c : Cursor) : Cursor := (c.span p).2

/-- The cursor behind the line break that is next, if one is. -/
def skipBreak (c : Cursor) : Cursor :=
  match c.rest with
  | x :: _ => if isBreak x then c.next else c
  | [] => c

/-- The failure of a scan at this place, as the number of the line. -/
def fault (c : Cursor) : Except Nat α := .error (c.mark.line + 1)

/-- Whether a line begins here with three times the character `x` and then the end of a word. -/
def isAtTriple (x : Char) (c : Cursor) : Bool :=
  c.mark.column == 0 && c.rest.take 3 == [x, x, x] && endsWord (c.peek 3)

/-- Whether a line begins here with the mark of a document's start or end. -/
def isAtBoundary (c : Cursor) : Bool := c.isAtTriple '-' || c.isAtTriple '.'

/-- The cursor behind blanks and, if one follows them, a comment; then a line break must follow
or the text must end. -/
def endLine (c : Cursor) : Except Nat Cursor :=
  let c := c.skipWhile isGap
  let c := if c.isAt '#' then c.skipWhile (!isBreak ·) else c
  match c.rest with
  | [] => .ok c
  | x :: _ => if isBreak x then .ok c.next else c.fault

end Cursor

end JsonWorkbench.Yaml
