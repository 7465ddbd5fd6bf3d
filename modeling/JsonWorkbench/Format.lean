import JsonWorkbench.Files.Name

/-!
# Formats

The formats in which a document can be written, and how they are named: by a word, in any case,
or by the extension of a file.

## Main definitions

* `Format` — the formats, with `Format.name` for messages and `Format.extension` for files.
* `Format.ofName?` — the format that a word names.
* `Format.ofFileName?` — the format that the extension of a path names.
-/

namespace JsonWorkbench

/-- A format of documents. -/
inductive Format where
  | json
  | yaml
  | toml
  | csv
  | xml
  deriving Repr, DecidableEq

namespace Format

/-- The name of a format in messages. -/
def name : Format → String
  | .json => "JSON"
  | .yaml => "YAML"
  | .toml => "TOML"
  | .csv => "CSV"
  | .xml => "XML"

/-- The extension of files of a format. -/
def extension : Format → String
  | .json => "json"
  | .yaml => "yaml"
  | .toml => "toml"
  | .csv => "csv"
  | .xml => "xml"

/-- The format that a word names, in upper or lower case of ASCII letters. -/
def ofName? (word : String) : Option Format :=
  let lower := String.ofList (word.toList.map Char.toLower)
  if lower == "json" then some .json
  else if lower == "yaml" || lower == "yml" then some .yaml
  else if lower == "toml" then some .toml
  else if lower == "csv" then some .csv
  else if lower == "xml" then some .xml
  else none

end Format

/-- The format that the extension of a path names. -/
def Format.ofFileName? (path : String) : Option Format :=
  (Files.extension? path.toList).bind fun e => Format.ofName? (String.ofList e)

end JsonWorkbench
