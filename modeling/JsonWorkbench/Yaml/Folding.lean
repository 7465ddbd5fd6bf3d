import JsonWorkbench.Yaml.Cursor

/-!
# Line Folding

Between two words of a scalar that runs over several lines stands a run of blanks and line
breaks. Blanks within a line stand for themselves. Where the run has a line break, the blanks
around it are layout: a single line feed becomes a blank, and of several line breaks the first
is dropped. The separators that are no line feeds are never dropped.

## Main definitions

* `foldBreaks` — what a run of line breaks stands for.
* `foldGap` — what a run of blanks and line breaks stands for.
-/

namespace JsonWorkbench.Yaml

/-- What a run of line breaks, the first of which is `first`, stands for. -/
def foldBreaks (first : Char) (others : List Char) : List Char :=
  if first == '\n' then
    if others.isEmpty then [' '] else others
  else first :: others

/-- What a run of blanks and line breaks between two words stands for. -/
def foldGap (run : List Char) : List Char :=
  match run.filter isBreak with
  | [] => run
  | first :: others => foldBreaks first others

/-- The line, counted from the first line of the run, on which a tab stands before column
`margin`; the first line is not looked at. -/
def earlyTab? (margin : Nat) : Nat → Bool → Nat → List Char → Option Nat
  | _, _, _, [] => none
  | line, crossed, column, c :: cs =>
    if isBreak c then earlyTab? margin (line + 1) true 0 cs
    else if crossed && c == '\t' && column < margin then some line
    else earlyTab? margin line crossed (column + 1) cs

end JsonWorkbench.Yaml
