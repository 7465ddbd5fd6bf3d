import JsonWorkbench.Json.ReadError

/-!
# Errors of Schema Documents

Why a text is no schema document: it is no JSON text, or a part of it has a kind that its place
in a schema does not admit. The position is that of the reader when it noticed.

## Main definitions

* `Schema.Found` — what stands in the text, as it is named in a message.
* `Schema.Expected` — what a place in a schema admits.
* `Schema.LoadCause`, `Schema.LoadFault`, `Schema.LoadError` — the errors.
-/

namespace JsonWorkbench.Schema

/-- A part of a document, as a message names it. -/
inductive Found where
  | null
  | bool (b : Bool)
  | integer (n : Int)
  | double (x : Float)
  | string (s : String)
  | sequence
  | map

/-- What a place in a schema admits. -/
inductive Expected where
  /-- A schema. -/
  | schema
  /-- A text. -/
  | string
  /-- A list. -/
  | sequence
  /-- An object with any keys. -/
  | map
  /-- A natural number of 64 bits. -/
  | count
  /-- A number. -/
  | number
  deriving Repr, DecidableEq

/-- Why a text is no schema document. -/
inductive LoadCause where
  /-- It is no JSON text. -/
  | json (c : Json.Cause)
  /-- A part has the wrong kind. -/
  | invalidType (found : Found) (expected : Expected)
  /-- A part has the right kind, but a value that is not admitted. -/
  | invalidValue (found : Found) (expected : Expected)
  /-- A field is given twice. -/
  | duplicateField (name : String)
  /-- A type is neither a name nor a list of names. -/
  | noVariant

/-- A cause, and how many bytes of the text lie behind the place where it was found. -/
structure LoadFault where
  /-- The reason. -/
  cause : LoadCause
  /-- The number of bytes behind the place. -/
  left : Nat

/-- A fault of the JSON text. -/
def LoadFault.ofJson (f : Json.Fault) : LoadFault := ⟨.json f.cause, f.left⟩

/-- The fault at the first of the remaining characters. -/
def LoadFault.here (cause : LoadCause) (rest : List Char) : LoadFault :=
  ⟨cause, Text.byteLength rest⟩

/-- Why a text is no schema document, and where that was noticed. -/
structure LoadError where
  /-- The reason. -/
  cause : LoadCause
  /-- The line, from one. -/
  line : Nat
  /-- The number of bytes of the line up to the place. -/
  column : Nat

/-- A fault in a text, as line and column. -/
def LoadFault.locate (f : LoadFault) (text : List Char) : LoadError :=
  let (line, column) := Json.bytePosition 1 0 (Text.byteLength text - f.left) text
  { cause := f.cause, line, column }

end JsonWorkbench.Schema
