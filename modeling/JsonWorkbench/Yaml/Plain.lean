import JsonWorkbench.Yaml.Folding

/-!
# Plain Scalars

A scalar without quotes ends where the syntax around it goes on: at a colon that ends a word, at
a comment, at a bracket or comma inside a flow collection, or at a line that is not indented far
enough.

## Main definitions

* `PlainWord`, `takeWord` — one word of a plain scalar.
* `readPlain` — a plain scalar over as many lines as it has.
-/

namespace JsonWorkbench.Yaml

/-- Whether a character ends a plain scalar inside a flow collection. -/
def isFlowIndicator (c : Char) : Bool :=
  c == ',' || c == '[' || c == ']' || c == '{' || c == '}'

/-- A word of a plain scalar, and whether a colon stands behind it where none may. -/
structure PlainWord where
  /-- The characters. -/
  text : List Char
  /-- Whether a colon follows directly before an indicator of a flow collection. -/
  badColon : Bool

/-- The word at the start of a text, up to a blank or to what ends the scalar. -/
def takeWord (flow : Bool) : List Char → PlainWord
  | [] => { text := [], badColon := false }
  | c :: cs =>
    let stop (badColon : Bool) : PlainWord := { text := [], badColon }
    if isGapOrBreak c then stop false
    else if flow && c == ':' && (cs.head?.map fun x => isFlowIndicator x || x == '?').getD false then
      stop true
    else if c == ':' && endsWord cs.head? then stop false
    else if flow && isFlowIndicator c then stop false
    else
      let word := takeWord flow cs
      { word with text := c :: word.text }

/-- A plain scalar. -/
structure PlainScalar where
  /-- The text. -/
  text : List Char
  /-- The cursor behind the scalar and the blanks and line breaks that follow it. -/
  behind : Cursor
  /-- Whether there are line breaks among those. -/
  crossed : Bool

/-- The work of `readPlain`: `gap` stands for what is between the words before and the next word.
Every step takes at least one character, so the number of characters is enough fuel. -/
def readPlainFrom (flow : Bool) (margin : Nat) :
    Nat → List Char → Bool → Cursor → Except Nat PlainScalar
  | 0, _, _, c => c.fault
  | fuel + 1, gap, crossed, c =>
    let stop : Except Nat PlainScalar := .ok { text := [], behind := c, crossed }
    if c.isAtBoundary || c.isAt '#' then stop
    else
      let word := takeWord flow c.rest
      let behind := c.drop word.text.length
      if word.badColon then behind.fault
      else if word.text.isEmpty then stop
      else
        let (run, next) := behind.span isGapOrBreak
        let text := gap ++ word.text
        let crossedNext := run.any isBreak
        if run.isEmpty then .ok { text, behind, crossed := false }
        else
          match earlyTab? margin 0 false 0 run with
          | some line => .error (behind.mark.line + line + 1)
          | none =>
            if !flow && next.mark.column < margin then
              .ok { text, behind := next, crossed := crossedNext }
            else
              (readPlainFrom flow margin fuel (foldGap run) crossedNext next).map fun s =>
                { s with text := text ++ s.text }

/-- A plain scalar. `margin` is the least column in which its further lines may begin. -/
def readPlain (flow : Bool) (margin : Nat) (c : Cursor) : Except Nat PlainScalar :=
  readPlainFrom flow margin (c.rest.length + 1) [] false c

end JsonWorkbench.Yaml
