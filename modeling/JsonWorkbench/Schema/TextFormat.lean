import JsonWorkbench.Regex.Parser

/-!
# Formats of Texts

The formats that a schema can ask a text to have. Each is given by a regular expression; a text
has the format if some part of it matches, so that the anchors in the expression say how much of
the text counts.

## Main definitions

* `TextFormat` — the formats; `TextFormat.admits` — the texts that have one.
* `detectFormat?` — the first format of those that are looked for in a text.
-/

namespace JsonWorkbench

/-- A format of texts. -/
inductive TextFormat where
  /-- A year, a month and a day. -/
  | date
  /-- A date and a time of day; what stands behind the time is open. -/
  | dateTime
  /-- An address with one at-sign. -/
  | email
  /-- A location on the web. -/
  | uri
  /-- A number of 128 bits in groups of hexadecimal digits. -/
  | uuid
  deriving Repr, DecidableEq

namespace TextFormat

/-- The name of a format. -/
def name : TextFormat → String
  | .date => "date"
  | .dateTime => "date-time"
  | .email => "email"
  | .uri => "uri"
  | .uuid => "uuid"

/-- The format with a name; one of them has a second name. -/
def ofName? : String → Option TextFormat
  | "date" => some .date
  | "date-time" => some .dateTime
  | "email" => some .email
  | "uri" => some .uri
  | "url" => some .uri
  | "uuid" => some .uuid
  | _ => none

/-- The regular expression of a format. -/
def pattern : TextFormat → String
  | .date => r"^\d{4}-\d{2}-\d{2}$"
  | .dateTime => r"^\d{4}-\d{2}-\d{2}T\d{2}:\d{2}:\d{2}"
  | .email => r"^[^\s@]+@[^\s@]+\.[^\s@]+$"
  | .uri => r"^https?://"
  | .uuid => r"(?i)^[0-9a-f]{8}-[0-9a-f]{4}-[0-9a-f]{4}-[0-9a-f]{4}-[0-9a-f]{12}$"

/-- Whether a text has the format. -/
def admits (f : TextFormat) (text : String) : Bool :=
  match Regex.parse? {} f.pattern with
  | some r => r.isMatch text
  | none => false

/-- The formats that are looked for, in order. -/
def candidates : List TextFormat := [.date, .dateTime, .email, .uri]

end TextFormat

/-- The first of the candidates that a text has. -/
def detectFormat? (text : String) : Option TextFormat :=
  TextFormat.candidates.find? (·.admits text)

end JsonWorkbench
