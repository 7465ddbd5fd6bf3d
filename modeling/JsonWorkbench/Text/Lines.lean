import JsonWorkbench.Text.Search

/-!
# Lines and Positions

A text seen as lines: the lines between line feeds, the lines as an editor shows them, and the
line and column of a byte offset. Lines and columns count from one.

## Main definitions

* `lineList` — the texts between line feeds; a text that ends in a line feed has a last empty one.
* `shownLines` — the lines without their line ends, and without that last empty one.
* `positionAt` — line and column of a byte offset, columns counted in characters.
* `contextLines` — the lines around a line, one of them marked.
-/

namespace JsonWorkbench.Text

/-- The texts between line feeds. -/
def lineList (cs : List Char) : List (List Char) := pieces (· == '\n') cs

/-- A line that ended in a line feed, without the carriage return before it. -/
def withoutReturn : List Char → List Char
  | [] => []
  | ['\r'] => []
  | c :: cs => c :: withoutReturn cs

/-- The work of `shownLines` on the texts between line feeds. -/
def shownLinesOf : List (List Char) → List (List Char)
  | [] => []
  | [last] => if last.isEmpty then [] else [last]
  | line :: rest => withoutReturn line :: shownLinesOf rest

/-- The lines of a text without their ends (a line feed, or carriage return and line feed). -/
def shownLines (cs : List Char) : List (List Char) := shownLinesOf (lineList cs)

/-- The number of bytes of a text in UTF-8. -/
def byteLength : List Char → Nat
  | [] => 0
  | c :: cs => c.utf8Size + byteLength cs

/-- The longest start of the text that fits in a number of bytes. -/
def takeBytes : Nat → List Char → List Char
  | _, [] => []
  | n, c :: cs => if c.utf8Size ≤ n then c :: takeBytes (n - c.utf8Size) cs else []

/-- The position behind a text: a line feed starts a new line, all else takes one column. -/
def advance : Nat × Nat → List Char → Nat × Nat
  | at_, [] => at_
  | (line, column), c :: cs =>
    if c == '\n' then advance (line + 1, 1) cs else advance (line, column + 1) cs

/-- Line and column of a byte offset. An offset inside a character counts as its first byte, one
behind the text as the end. -/
def positionAt (text : String) (offset : Nat) : Nat × Nat :=
  advance (1, 1) (takeBytes offset text.toList)

/-- A line shown with a message. -/
structure ContextLine where
  /-- The number of the line, from one. -/
  number : Nat
  /-- The line without its end. -/
  content : String
  /-- Whether the message is about this line. -/
  isError : Bool
  deriving Repr, DecidableEq

/-- The text without the carriage returns at its end. -/
def withoutReturns : List Char → List Char
  | [] => []
  | c :: cs =>
    match withoutReturns cs with
    | [] => if c == '\r' then [] else [c]
    | rest => c :: rest

/-- The lines around line `line`: at most `radius` before it and `radius` behind it. -/
def contextLines (text : String) (line radius : Nat) : List ContextLine :=
  let start := line - (1 + radius)
  let shown := ((lineList text.toList).take (line + radius)).drop start
  (shown.zipIdx (start + 1)).map fun (content, number) =>
    { number, content := String.ofList (withoutReturns content), isError := number == line }

end JsonWorkbench.Text
