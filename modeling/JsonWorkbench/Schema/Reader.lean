import JsonWorkbench.Json.Skip
import JsonWorkbench.Schema.Basic
import JsonWorkbench.Schema.LoadError

/-!
# Reading Schemas

A schema document is read in one pass, so that of two faults the first in the text is reported:
a part of the wrong kind as well as a break of the JSON grammar. A schema is an object whose
members are its fields, in any order; fields that are not known are passed over, a null is as
good as no field. A schema may also be an array of its fields in their fixed order.

Containers may be nested 127 deep, as in every JSON text that is kept. The recursion is on the
number of containers that may still be opened.

Most faults carry their own place. A field that is given twice and a type that is not known are
placed where the reader stands when it has sought the end of the schema that holds them.

## Main definitions

* `Field` — the fields of a schema, in their order.
* `Schema.read` — a schema at the start of a text.
* `Schema.load` — a whole text.
-/

namespace JsonWorkbench.Schema

/-! ### Scalars -/

/-- The faults of a JSON reader as faults of a schema document. -/
def lift (r : Except Json.Fault α) : Except LoadFault α := r.mapError .ofJson

/-- A fault of the JSON grammar at the first of the remaining characters. -/
def jsonHere (cause : Json.Cause) (rest : List Char) : LoadFault := .ofJson (.here cause rest)

/-- A fault of the JSON grammar one byte behind the start of the remaining characters. -/
def jsonNext (cause : Json.Cause) (rest : List Char) : LoadFault := .ofJson (.next cause rest)

/-- The number of a value, as a message names it. -/
def Found.ofNumber : Value → Found
  | .number (.integer n) => .integer n
  | .number (.double x) => .double x
  | _ => .null

/-- The fault of a value of the wrong kind: a scalar is read, a container is not entered. -/
def wrongKind (expected : Expected) (cs : List Char) : LoadFault :=
  let at' (found : Found) (rest : List Char) : LoadFault := .here (.invalidType found expected) rest
  let word (letters : List Char) (found : Found) (rest : List Char) : LoadFault :=
    match Json.readWord letters .null rest with
    | .ok (_, behind) => at' found behind
    | .error f => .ofJson f
  let number (negative : Bool) (rest : List Char) : LoadFault :=
    match Json.readNumber negative rest with
    | .ok (v, behind) => at' (.ofNumber v) behind
    | .error f => .ofJson f
  match cs with
  | [] => jsonHere .endInValue []
  | c :: rest =>
    if c == 'n' then word ['u', 'l', 'l'] .null rest
    else if c == 't' then word ['r', 'u', 'e'] (.bool true) rest
    else if c == 'f' then word ['a', 'l', 's', 'e'] (.bool false) rest
    else if c == '-' then number true rest
    else if c.isDigit then number false cs
    else if c == '"' then
      match Json.readString rest with
      | .ok (s, behind) => at' (.string s) behind
      | .error f => .ofJson f
    else if c == '[' then at' .sequence cs
    else if c == '{' then at' .map cs
    else jsonNext .expectedValue cs

/-- A text. -/
def readText (cs : List Char) : Except LoadFault (String × List Char) :=
  match Json.skipSpace cs with
  | '"' :: rest => lift (Json.readString rest)
  | other => .error (wrongKind .string other)

/-- A number, of which it is known that it starts here; or the fault of another kind. -/
def readNumeral (expected : Expected) (cs : List Char) : Except LoadFault (Value × List Char) :=
  match Json.skipSpace cs with
  | [] => .error (jsonHere .endInValue [])
  | c :: rest =>
    if c == '-' then lift (Json.readNumber true rest)
    else if c.isDigit then lift (Json.readNumber false (c :: rest))
    else .error (wrongKind expected (c :: rest))

/-- A natural number of 64 bits. -/
def readCount (cs : List Char) : Except LoadFault (Nat × List Char) :=
  match readNumeral .count cs with
  | .error f => .error f
  | .ok (.number (.integer n), rest) =>
    if 0 ≤ n then .ok (n.toNat, rest)
    else .error (.here (.invalidValue (.integer n) .count) rest)
  | .ok (v, rest) => .error (.here (.invalidType (.ofNumber v) .count) rest)

/-- A number as a double. -/
def readBound (cs : List Char) : Except LoadFault (Float × List Char) :=
  match readNumeral .number cs with
  | .error f => .error f
  | .ok (.number n, rest) => .ok (n.toFloat, rest)
  | .ok (v, rest) => .error (.here (.invalidType (.ofNumber v) .number) rest)

/-! ### Containers -/

/-- The container that holds the fields of a schema. -/
inductive Enclosure where
  /-- An object. -/
  | braces
  /-- An array. -/
  | brackets

/-- The text behind the place up to which the end of a container is sought. -/
def Enclosure.seekEnd (e : Enclosure) (cs : List Char) : List Char :=
  match e, Json.skipSpace cs with
  | .braces, '}' :: rest => rest
  | .brackets, ']' :: rest => rest
  | .brackets, ',' :: rest => Json.skipSpace rest
  | _, rest => rest

/-- A part that may be null. -/
def readOptional (read : List Char → Except LoadFault (α × List Char)) (cs : List Char) :
    Except LoadFault (Option α × List Char) :=
  match Json.skipSpace cs with
  | 'n' :: rest => (lift (Json.readWord ['u', 'l', 'l'] .null rest)).map fun (_, b) => (none, b)
  | other => (read other).map fun (a, b) => (some a, b)

/-- Where the next item of a list starts, or the text behind the list. -/
inductive Continuation where
  /-- An item follows. -/
  | item (rest : List Char)
  /-- The list has ended. -/
  | closed (rest : List Char)

/-- Whether an item follows; before all but the first stands a comma. -/
def continueItems (first : Bool) (cs : List Char) : Except LoadFault Continuation :=
  match Json.skipSpace cs with
  | [] => .error (jsonHere .endInArray [])
  | c :: rest =>
    if c == ']' then .ok (.closed rest)
    else if first then .ok (.item (c :: rest))
    else if c == ',' then
      match Json.skipSpace rest with
      | [] => .error (jsonHere .endInValue [])
      | ']' :: more => .error (jsonNext .trailingComma (']' :: more))
      | more => .ok (.item more)
    else .error (jsonNext .expectedCommaOrBracket (c :: rest))

/-- Whether a member follows; the item then starts behind the opening quote of its key. -/
def continueMembers (first : Bool) (cs : List Char) : Except LoadFault Continuation :=
  match Json.skipSpace cs with
  | [] => .error (jsonHere .endInObject [])
  | c :: rest =>
    if c == '}' then .ok (.closed rest)
    else if first then
      if c == '"' then .ok (.item rest) else .error (jsonNext .keyNotString (c :: rest))
    else if c == ',' then
      match Json.skipSpace rest with
      | [] => .error (jsonHere .endInValue [])
      | '"' :: more => .ok (.item more)
      | '}' :: more => .error (jsonNext .trailingComma ('}' :: more))
      | more => .error (jsonNext .keyNotString more)
    else .error (jsonNext .expectedCommaOrBrace (c :: rest))

/-- The text behind the colon. -/
def readColon (cs : List Char) : Except LoadFault (List Char) :=
  match Json.skipSpace cs with
  | [] => .error (jsonHere .endInObject [])
  | ':' :: rest => .ok rest
  | other => .error (jsonNext .expectedColon other)

/-- The items of a list, of which the bracket has been read. -/
def readItems (read : List Char → Except LoadFault (α × List Char)) :
    Nat → Bool → List Char → Except LoadFault (List α × List Char)
  | 0, _, cs => .error (jsonHere .tooDeep cs)
  | fuel + 1, first, cs =>
    match continueItems first cs with
    | .error f => .error f
    | .ok (.closed rest) => .ok ([], rest)
    | .ok (.item start) =>
      match read start with
      | .error f => .error f
      | .ok (a, rest) =>
        (readItems read fuel false rest).map fun (more, behind) => (a :: more, behind)

/-- The members of an object with any keys, of which the brace has been read. -/
def readPairs (read : List Char → Except LoadFault (α × List Char)) :
    Nat → Bool → List Char → Except LoadFault (List (String × α) × List Char)
  | 0, _, cs => .error (jsonHere .tooDeep cs)
  | fuel + 1, first, cs =>
    match continueMembers first cs with
    | .error f => .error f
    | .ok (.closed rest) => .ok ([], rest)
    | .ok (.item start) =>
      match lift (Json.readString start) with
      | .error f => .error f
      | .ok (key, rest) =>
        match readColon rest with
        | .error f => .error f
        | .ok rest =>
          match read rest with
          | .error f => .error f
          | .ok (a, rest) =>
            (readPairs read fuel false rest).map fun (more, behind) => ((key, a) :: more, behind)

/-- A list. `room` is the number of containers that may still be opened. -/
def readList (room : Nat) (read : List Char → Except LoadFault (α × List Char)) (cs : List Char) :
    Except LoadFault (List α × List Char) :=
  match Json.skipSpace cs with
  | '[' :: rest =>
    if room = 0 then .error (jsonNext .tooDeep ('[' :: rest))
    else readItems read (rest.length + 1) true rest
  | other => .error (wrongKind .sequence other)

/-- An object with any keys. -/
def readMap (room : Nat) (read : List Char → Except LoadFault (α × List Char)) (cs : List Char) :
    Except LoadFault (List (String × α) × List Char) :=
  match Json.skipSpace cs with
  | '{' :: rest =>
    if room = 0 then .error (jsonNext .tooDeep ('{' :: rest))
    else readPairs read (rest.length + 1) true rest
  | other => .error (wrongKind .map other)

/-- A value of any kind. -/
def readAny (room : Nat) (cs : List Char) : Except LoadFault (Value × List Char) :=
  lift (Json.readValue (Json.fuelFor cs) room cs)

/-! ### Types -/

/-- The type that an object names: by its only key, which must have no value. -/
def typeOfMembers? : List (String × Value) → Option TypeName
  | [(k, .null)] => TypeName.ofName? k
  | _ => none

/-- The type that a value other than an object names. -/
def typeOfValue? : Value → Option TypeName
  | .string s => TypeName.ofName? s
  | _ => none

/-- A value, and the type that it names, if it names one. -/
def readTypeName (room : Nat) (cs : List Char) : Except LoadFault (Option TypeName × List Char) :=
  match Json.skipSpace cs with
  | '{' :: rest =>
    if room = 0 then .error (jsonNext .tooDeep ('{' :: rest))
    else
      (lift (Json.readMembers (Json.fuelFor rest) (room - 1) true rest)).map
        fun (pairs, behind) => (typeOfMembers? pairs, behind)
  | other => (readAny room other).map fun (v, behind) => (typeOfValue? v, behind)

/-- A value, and what it says about the type, if that is anything: a list of types is a choice. -/
def readTypes (room : Nat) (cs : List Char) : Except LoadFault (Option TypeSpec × List Char) :=
  match Json.skipSpace cs with
  | '[' :: rest =>
    (readList room (readTypeName (room - 1)) ('[' :: rest)).map
      fun (ts, behind) => ((ts.mapM id).map .many, behind)
  | other => (readTypeName room other).map fun (t, behind) => (t.map .one, behind)

/-- What a schema says about the type. `enclosure` is what the schema stands in. -/
def readTypeSpec (room : Nat) (enclosure : Enclosure) (cs : List Char) :
    Except LoadFault (TypeSpec × List Char) :=
  match readTypes room cs with
  | .error f => .error f
  | .ok (some t, rest) => .ok (t, rest)
  | .ok (none, rest) => .error (.here .noVariant (enclosure.seekEnd rest))

/-! ### Fields -/

/-- The fields of a schema. -/
inductive Field where
  | dialect
  | title
  | type
  | properties
  | required
  | items
  | format
  | anyOf
  | minItems
  | maxItems
  | minLength
  | maxLength
  | pattern
  | minimum
  | maximum
  | choices
  deriving Repr, DecidableEq

namespace Field

/-- The key of a field. -/
def key : Field → String
  | .dialect => "$schema"
  | .title => "title"
  | .type => "type"
  | .properties => "properties"
  | .required => "required"
  | .items => "items"
  | .format => "format"
  | .anyOf => "anyOf"
  | .minItems => "minItems"
  | .maxItems => "maxItems"
  | .minLength => "minLength"
  | .maxLength => "maxLength"
  | .pattern => "pattern"
  | .minimum => "minimum"
  | .maximum => "maximum"
  | .choices => "enum"

/-- The fields in their order. -/
def all : List Field :=
  [.dialect, .title, .type, .properties, .required, .items, .format, .anyOf, .minItems, .maxItems,
   .minLength, .maxLength, .pattern, .minimum, .maximum, .choices]

/-- The field with a key. -/
def ofKey? (text : String) : Option Field := all.find? (·.key == text)

end Field

/-- How the schemas inside a schema are read: one that is the value of a field, and one that stands
in a container there. -/
structure Inner where
  /-- The value of a field. -/
  direct : List Char → Except LoadFault (Schema × List Char)
  /-- A part of the value of a field. -/
  nested : List Char → Except LoadFault (Schema × List Char)

/-- A schema with a field read from the text. -/
def readField (room : Nat) (inner : Inner) (enclosure : Enclosure) (field : Field) (s : Schema)
    (cs : List Char) : Except LoadFault (Schema × List Char) :=
  let rule {α : Type} (read : List Char → Except LoadFault (α × List Char))
      (put : Option α → Schema) : Except LoadFault (Schema × List Char) :=
    (readOptional read cs).map fun (a, rest) => (put a, rest)
  let put (r : Rules) : Schema := { s with rules := r }
  let r := s.rules
  match field with
  | .dialect => rule readText fun a => put { r with dialect := a }
  | .title => rule readText fun a => put { r with title := a }
  | .type => rule (readTypeSpec room enclosure) fun a => put { r with type := a }
  | .properties =>
    rule (readMap room inner.nested) fun a => { s with properties := a.map Keyed.ofPairs }
  | .required => rule (readList room readText) fun a => put { r with required := a }
  | .items => rule inner.direct fun a => { s with items := a }
  | .format => rule readText fun a => put { r with format := a }
  | .anyOf => rule (readList room inner.nested) fun a => { s with anyOf := a }
  | .minItems => rule readCount fun a => put { r with minItems := a }
  | .maxItems => rule readCount fun a => put { r with maxItems := a }
  | .minLength => rule readCount fun a => put { r with minLength := a }
  | .maxLength => rule readCount fun a => put { r with maxLength := a }
  | .pattern => rule readText fun a => put { r with pattern := a }
  | .minimum => rule readBound fun a => put { r with minimum := a }
  | .maximum => rule readBound fun a => put { r with maximum := a }
  | .choices => rule (readList room (readAny (room - 1))) fun a => put { r with choices := a }

/-- The fields of a schema in braces, of which the brace has been read. `seen` are the fields
before. -/
def readFields (room : Nat) (inner : Inner) :
    Nat → Bool → List Field → Schema → List Char → Except LoadFault (Schema × List Char)
  | 0, _, _, _, cs => .error (jsonHere .tooDeep cs)
  | fuel + 1, first, seen, s, cs =>
    match continueMembers first cs with
    | .error f => .error f
    | .ok (.closed rest) => .ok (s, rest)
    | .ok (.item start) =>
      match lift (Json.readString start) with
      | .error f => .error f
      | .ok (key, rest) =>
        match Field.ofKey? key with
        | some field =>
          if seen.contains field then
            .error (.here (.duplicateField field.key) (Enclosure.braces.seekEnd rest))
          else
            match readColon rest with
            | .error f => .error f
            | .ok rest =>
              match readField room inner .braces field s rest with
              | .error f => .error f
              | .ok (s, rest) => readFields room inner fuel false (field :: seen) s rest
        | none =>
          match readColon rest with
          | .error f => .error f
          | .ok rest =>
            match lift (Json.skipValue rest) with
            | .error f => .error f
            | .ok rest => readFields room inner fuel false seen s rest

/-- The end of an array that has no more places for fields. -/
def readEndOfFields (s : Schema) (cs : List Char) : Except LoadFault (Schema × List Char) :=
  match Json.skipSpace cs with
  | [] => .error (jsonHere .endInArray [])
  | ']' :: rest => .ok (s, rest)
  | ',' :: rest =>
    match Json.skipSpace rest with
    | ']' :: more => .error (jsonNext .trailingComma (']' :: more))
    | more => .error (jsonNext .trailingCharacters more)
  | other => .error (jsonNext .trailingCharacters other)

/-- The fields of a schema in brackets, of which the bracket has been read. -/
def readFieldsInOrder (room : Nat) (inner : Inner) :
    List Field → Bool → Schema → List Char → Except LoadFault (Schema × List Char)
  | [], _, s, cs => readEndOfFields s cs
  | field :: fields, first, s, cs =>
    match continueItems first cs with
    | .error f => .error f
    | .ok (.closed rest) => .ok (s, rest)
    | .ok (.item start) =>
      match readField room inner .brackets field s start with
      | .error f => .error f
      | .ok (s, rest) => readFieldsInOrder room inner fields false s rest

/-! ### Schemas -/

/-- A schema. `inside` reads its fields, given whether they stand in braces. -/
def readWith (inside : Enclosure → List Char → Except LoadFault (Schema × List Char))
    (cs : List Char) : Except LoadFault (Schema × List Char) :=
  match Json.skipSpace cs with
  | '{' :: rest => inside .braces rest
  | '[' :: rest => inside .brackets rest
  | other => .error (wrongKind .schema other)

/-- The fields of a schema in a container that has been opened. -/
def readInside (room : Nat) (inner : Inner) (enclosure : Enclosure) (cs : List Char) :
    Except LoadFault (Schema × List Char) :=
  match enclosure with
  | .braces => readFields room inner (cs.length + 1) true [] {} cs
  | .brackets => readFieldsInOrder room inner Field.all true {} cs

/-- A schema. `room` is the number of containers that may still be opened. -/
def read : Nat → List Char → Except LoadFault (Schema × List Char)
  | 0, cs =>
    readWith (fun _ rest => .error ⟨.json .tooDeep, Text.byteLength rest⟩) cs
  | 1, cs => readWith (readInside 0 ⟨fun c => read 0 c, fun c => read 0 c⟩) cs
  | room + 2, cs =>
    readWith (readInside (room + 1) ⟨fun c => read (room + 1) c, fun c => read room c⟩) cs
termination_by structural room => room

/-- A text that holds one schema and blanks. -/
def loadChars (cs : List Char) : Except LoadFault Schema :=
  match read Json.maxNesting cs with
  | .error f => .error f
  | .ok (s, rest) =>
    match Json.skipSpace rest with
    | [] => .ok s
    | more => .error (jsonNext .trailingCharacters more)

/-- The schema that a text stands for. -/
def load (text : String) : Except LoadError Schema :=
  (loadChars text.toList).mapError (·.locate text.toList)

end JsonWorkbench.Schema
