import JsonWorkbench.Decimal.Numeral
import JsonWorkbench.Yaml.Folding

/-!
# Block Scalars

A scalar whose lines stand below its header. Its indentation is given in the header or taken
from its first line that is not empty. A literal scalar keeps its lines; in a folded one a single
line break between two lines becomes a blank, unless one of them begins with a blank. The header
also says what is kept of the line breaks at the end.

## Main definitions

* `Chomping`, `BlockHeader` — what a header says.
* `readBlock` — a block scalar.
-/

namespace JsonWorkbench.Yaml

/-- What is kept of the line breaks at the end. -/
inductive Chomping where
  /-- None. -/
  | strip
  /-- The first. -/
  | clip
  /-- All. -/
  | keep
  deriving Repr, DecidableEq

/-- The header of a block scalar. -/
structure BlockHeader where
  /-- What is kept of the line breaks at the end. -/
  chomping : Chomping
  /-- The indentation relative to what is around the scalar, if given. -/
  increment : Option Nat

/-- The chomping that is next, if one is given. -/
def readChomping? (c : Cursor) : Option (Chomping × Cursor) :=
  match c.rest with
  | '+' :: _ => some (.keep, c.next)
  | '-' :: _ => some (.strip, c.next)
  | _ => none

/-- The indentation that is next, if one is given; it is not zero. -/
def readIncrement (c : Cursor) : Except Nat (Option Nat × Cursor) :=
  match c.rest with
  | d :: _ =>
    if d == '0' then c.fault
    else if d.isDigit then .ok (some (Decimal.digitValue d), c.next)
    else .ok (none, c)
  | [] => .ok (none, c)

/-- A header, of which the first character has been read, with the end of its line. -/
def readHeader (c : Cursor) : Except Nat (BlockHeader × Cursor) :=
  match readChomping? c with
  | some (chomping, behind) => do
    let (increment, behind) ← readIncrement behind
    return ({ chomping, increment }, ← behind.endLine)
  | none => do
    let (increment, behind) ← readIncrement c
    match increment.bind fun _ => readChomping? behind with
    | some (chomping, last) => return ({ chomping, increment }, ← last.endLine)
    | none => return ({ chomping := .clip, increment }, ← behind.endLine)

/-- Empty lines before a line of content. -/
structure EmptyLines where
  /-- Their line breaks. -/
  breaks : List Char
  /-- The greatest column reached by blanks. -/
  deepest : Nat
  /-- The cursor behind them and behind the indentation of the next line. -/
  behind : Cursor

/-- The empty lines and the indentation that are next. An indentation of `none` is not known yet,
and all blanks belong to it. -/
def readEmptyLines (indent : Option Nat) : Nat → List Char → Mark → Except Nat EmptyLines
  | deepest, [], m => .ok { breaks := [], deepest := max deepest m.column, behind := ⟨[], m⟩ }
  | deepest, c :: cs, m =>
    let inside := match indent with
      | some n => decide (m.column < n)
      | none => true
    if inside && c == ' ' then readEmptyLines indent deepest cs (m.step c)
    else if inside && c == '\t' then .error (m.line + 1)
    else if isBreak c then
      (readEmptyLines indent (max deepest m.column) cs (m.step c)).map fun lines =>
        { lines with breaks := c :: lines.breaks }
    else .ok { breaks := [], deepest := max deepest m.column, behind := ⟨c :: cs, m⟩ }

/-- What stands between a line and the next one: the break behind the line, `none` before the
first line, and the breaks of empty lines. `apart` says that one of the lines begins with a
blank. -/
def joinLines (literal apart : Bool) (first : Option Char) (others : List Char) : List Char :=
  match first with
  | none => others
  | some b =>
    if !literal && !apart && b == '\n' then foldBreaks b others else b :: others

/-- The lines of a block scalar: its text, the break behind the last line, and the breaks of the
empty lines that follow. -/
structure BlockLines where
  /-- The text without what is at the end. -/
  text : List Char
  /-- The break behind the last line, if there is a line and it has one. -/
  final : Option Char
  /-- The breaks of the empty lines at the end. -/
  tail : List Char
  /-- The cursor behind all. -/
  behind : Cursor

/-- The lines from a cursor on that stands behind the indentation. Every step takes a line, so
the number of characters is enough fuel. -/
def readLines (literal : Bool) (indent : Nat) :
    Nat → Option Char → Bool → List Char → Cursor → Except Nat BlockLines
  | 0, final, _, tail, c => .ok { text := [], final, tail, behind := c }
  | fuel + 1, final, afterBlank, tail, c =>
    if c.mark.column == indent && !c.rest.isEmpty then
      let atBlank := (c.rest.head?.map isGap).getD false
      let (line, c) := c.span (!isBreak ·)
      let next := c.next
      match readEmptyLines (some indent) 0 next.rest next.mark with
      | .error e => .error e
      | .ok lines =>
        (readLines literal indent fuel c.rest.head? atBlank lines.breaks lines.behind).map fun b =>
          { b with text := joinLines literal (afterBlank || atBlank) final tail ++ line ++ b.text }
    else .ok { text := [], final, tail, behind := c }

/-- A block scalar, of which the first character has been read. `margin` is the least column in
which its lines may begin. -/
def readBlock (literal : Bool) (margin : Nat) (c : Cursor) : Except Nat (List Char × Cursor) := do
  let (header, c) ← readHeader c
  let given := header.increment.map fun n => margin - 1 + n
  let lines ← readEmptyLines given 0 c.rest c.mark
  let indent := given.getD (max lines.deepest (max margin 1))
  let b ← readLines literal indent (lines.behind.rest.length + 1) none false lines.breaks
    lines.behind
  let kept := match header.chomping with
    | .strip => []
    | .clip => b.final.toList
    | .keep => b.final.toList ++ b.tail
  return (b.text ++ kept, b.behind)

end JsonWorkbench.Yaml
