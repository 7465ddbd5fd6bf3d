import JsonWorkbench.Text.Blank
import JsonWorkbench.Text.Lines

/-!
# Trailing Commas

An indented JSON text with a comma behind the last member of every container, as configuration
files in a script language have it. The commas are found from the lines: a line gets one if the
next line starts with a closing bracket and it does not itself open a container or end in a comma.

## Main definitions

* `addTrailingCommas` — the text with the commas.
-/

namespace JsonWorkbench.Json

/-- Whether the first character of a line that is not blank closes a container. -/
def closes (line : List Char) : Bool :=
  match Text.trimStart line with
  | c :: _ => c == '}' || c == ']'
  | [] => false

/-- Whether a comma may follow the line: it is not blank and does not end in `{`, `[` or a
comma. -/
def takesComma (line : List Char) : Bool :=
  match (Text.trimEnd line).getLast? with
  | some c => !(c == '{' || c == '[' || c == ',')
  | none => false

/-- The lines with commas behind those that a closing bracket follows. -/
def withCommas : List (List Char) → List (List Char)
  | line :: next :: rest =>
    (if closes next && takesComma line then line ++ [','] else line) :: withCommas (next :: rest)
  | lines => lines

/-- The text with a comma behind the last member of every container. -/
def addTrailingCommas (text : String) : String :=
  String.ofList (['\n'].intercalate (withCommas (Text.shownLines text.toList)))

end JsonWorkbench.Json
