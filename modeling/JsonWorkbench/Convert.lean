import JsonWorkbench.Csv
import JsonWorkbench.Json.Reader
import JsonWorkbench.Toml
import JsonWorkbench.Xml.Printer
import JsonWorkbench.Xml.Reader
import JsonWorkbench.Yaml

/-!
# Conversion between Formats

A document is read in one format and written in another.

## Main definitions

* `ConvertOptions` — the decisions that the formats leave open.
* `decode`, `encode` — reading and writing in any format.
* `formatNamed` — a format by its name, or the error that there is none.
-/

namespace JsonWorkbench

/-- The decisions that the formats leave open. -/
structure ConvertOptions where
  /-- The indentation of JSON. -/
  indent : Json.Indent := .spaces 2
  /-- The name of the root element. -/
  rootName : String := "root"
  /-- How tables are written. -/
  table : Csv.Options := {}

/-- The value of a text in a format. -/
def decode (o : ConvertOptions) (f : Format) (text : String) : Except Error Value :=
  match f with
  | .json => (Json.parse text).mapError .parse
  | .yaml => Yaml.decode text
  | .toml => Toml.decode text
  | .csv => .ok (Csv.decode o.table text)
  | .xml => Xml.decode text

/-- The text of a value in a format. -/
def encode (o : ConvertOptions) (f : Format) (v : Value) : Except Error String :=
  match f with
  | .json => .ok (Json.stringify v o.indent)
  | .yaml => .ok (Yaml.encode v)
  | .toml => Toml.encode v
  | .csv => Csv.encode o.table v
  | .xml => .ok (Xml.encode v o.rootName)

/-- The format that a word names. -/
def formatNamed (word : String) : Except Error Format :=
  match Format.ofName? word with
  | some f => .ok f
  | none => .error (.unsupportedFormat word)

end JsonWorkbench
