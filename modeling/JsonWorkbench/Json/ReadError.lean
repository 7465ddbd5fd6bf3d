import JsonWorkbench.Text.Lines

/-!
# Errors of the JSON Reader

What can be wrong with a JSON text, and where. The reader knows how many bytes it has not yet
consumed; the line and the column are computed from that once, when reading has failed.

## Main definitions

* `Json.Cause` — what is wrong; `Json.Cause.text` says it in words.
* `Json.Fault` — a cause and the number of bytes left behind the place.
* `Json.ReadError` — a cause, a line and a column; columns count bytes.
-/

namespace JsonWorkbench.Json

/-- What can be wrong with a JSON text. -/
inductive Cause where
  | endInArray
  | endInObject
  | endInString
  | endInValue
  | expectedColon
  | expectedCommaOrBracket
  | expectedCommaOrBrace
  | expectedIdent
  | expectedValue
  | invalidEscape
  | invalidNumber
  | numberOutOfRange
  | controlCharacter
  | keyNotString
  | loneSurrogate
  | trailingComma
  | trailingCharacters
  | endOfHexEscape
  | tooDeep
  deriving Repr, DecidableEq

/-- The words for a cause. -/
def Cause.text : Cause → String
  | .endInArray => "EOF while parsing a list"
  | .endInObject => "EOF while parsing an object"
  | .endInString => "EOF while parsing a string"
  | .endInValue => "EOF while parsing a value"
  | .expectedColon => "expected \x60:\x60"
  | .expectedCommaOrBracket => "expected \x60,\x60 or \x60]\x60"
  | .expectedCommaOrBrace => "expected \x60,\x60 or \x60\x7d\x60"
  | .expectedIdent => "expected ident"
  | .expectedValue => "expected value"
  | .invalidEscape => "invalid escape"
  | .invalidNumber => "invalid number"
  | .numberOutOfRange => "number out of range"
  | .controlCharacter => "control character (\\u0000-\\u001F) found while parsing a string"
  | .keyNotString => "key must be a string"
  | .loneSurrogate => "lone leading surrogate in hex escape"
  | .trailingComma => "trailing comma"
  | .trailingCharacters => "trailing characters"
  | .endOfHexEscape => "unexpected end of hex escape"
  | .tooDeep => "recursion limit exceeded"

/-- A cause, and how many bytes of the text lie behind the place where it was found. -/
structure Fault where
  /-- What is wrong. -/
  cause : Cause
  /-- The number of bytes behind the place. -/
  left : Nat
  deriving Repr, DecidableEq

/-- The fault at the first of the remaining characters. -/
def Fault.here (cause : Cause) (rest : List Char) : Fault :=
  { cause, left := Text.byteLength rest }

/-- The fault one byte behind the start of the remaining characters, or at the end of the text. -/
def Fault.next (cause : Cause) (rest : List Char) : Fault :=
  { cause, left := Text.byteLength rest - 1 }

/-- What is wrong with a text, and where. -/
structure ReadError where
  /-- What is wrong. -/
  cause : Cause
  /-- The line, from one. -/
  line : Nat
  /-- The number of bytes of the line up to the place. -/
  column : Nat
  deriving Repr, DecidableEq

/-- The error in one sentence. -/
def ReadError.message (e : ReadError) : String :=
  s!"{e.cause.text} at line {e.line} column {e.column}"

/-- Line and bytes into the line behind a number of bytes of a text. -/
def bytePosition (line column : Nat) : Nat → List Char → Nat × Nat
  | _, [] => (line, column)
  | n, c :: cs =>
    if n < c.utf8Size then (line, column + n)
    else if c == '\n' then bytePosition (line + 1) 0 (n - c.utf8Size) cs
    else bytePosition line (column + c.utf8Size) (n - c.utf8Size) cs

/-- A fault in a text, as line and column. -/
def Fault.locate (f : Fault) (text : List Char) : ReadError :=
  let (line, column) := bytePosition 1 0 (Text.byteLength text - f.left) text
  { cause := f.cause, line, column }

end JsonWorkbench.Json
