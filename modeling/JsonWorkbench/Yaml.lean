import JsonWorkbench.Error
import JsonWorkbench.Text.Blank
import JsonWorkbench.Yaml.Printer
import JsonWorkbench.Yaml.Reader

/-!
# YAML Documents

The documents of the workbench as YAML texts. A text is written without the line feeds at its
end. A text in which nothing but comments and marks of documents stands is an empty object.

## Main definitions

* `encode`, `decode` — a value as a text, and back.
-/

namespace JsonWorkbench.Yaml

/-- The text of a value, without the line feeds at its end. -/
def encode (v : Value) : String := String.ofList (Text.dropEndWhile (· == '\n') (write v))

/-- A line that says nothing: blank, a comment, or a mark of a document. -/
def isSilentLine (line : List Char) : Bool :=
  let line := Text.trim line
  line.isEmpty || line.head? == some '#' || line = ['-', '-', '-'] || line = ['.', '.', '.']

/-- Whether all lines of a text say nothing. -/
def isSilent (cs : List Char) : Bool := (Text.shownLines cs).all isSilentLine

/-- The value of a text. -/
def decode (text : String) : Except Error Value :=
  if isSilent text.toList then .ok Value.emptyObject
  else (read text.toList).mapError fun f => .decode (.malformed .yaml f.line)

end JsonWorkbench.Yaml
