import JsonWorkbench.Json.Numeral
import JsonWorkbench.Text.Hexadecimal

/-!
# Reading JSON

A strict reader for JSON texts. Of a repeated key the first place and the last value count;
containers may be nested 127 deep.

The functions take the remaining characters and answer with the value and what remains behind it.
A text of `n` characters is read in fewer than `2 * n + 2` nested calls, which is the fuel that
`parse` gives.

## Main definitions

* `readString`, `readValue` — the pieces of the grammar.
* `parse` — a whole text.
-/

namespace JsonWorkbench.Json

/-- The characters that may stand between tokens. -/
def isSpace (c : Char) : Bool := c == ' ' || c == '\n' || c == '\t' || c == '\r'

/-- The text without the white space at its start. -/
def skipSpace (cs : List Char) : List Char := cs.dropWhile isSpace

/-! ### Strings -/

/-- The number that four hexadecimal digits at the start of the text stand for. -/
def readHex (cs : List Char) : Except Fault Nat :=
  match cs with
  | a :: b :: c :: d :: _ =>
    match Text.hexValue? a, Text.hexValue? b, Text.hexValue? c, Text.hexValue? d with
    | some w, some x, some y, some z => .ok (((w * 16 + x) * 16 + y) * 16 + z)
    | _, _, _, _ => .error { cause := .invalidEscape, left := Text.byteLength cs - 4 }
  | _ =>
    if Text.byteLength cs ≥ 4 then
      .error { cause := .invalidEscape, left := Text.byteLength cs - 4 }
    else .error { cause := .endInString, left := 0 }

/-- The character of a `u` escape, of which the letter has been read, and the number of characters
that it takes. A leading surrogate needs a trailing one in a second escape. -/
def readUnicode (cs : List Char) : Except Fault (Char × Nat) :=
  match readHex cs with
  | .error e => .error e
  | .ok n =>
    let rest := cs.drop 4
    if 0xDC00 ≤ n && n ≤ 0xDFFF then .error (.here .loneSurrogate rest)
    else if n < 0xD800 || 0xDBFF < n then .ok (Char.ofNat n, 4)
    else
      match rest with
      | [] => .error (.here .endInString [])
      | '\\' :: more =>
        match more with
        | [] => .error (.here .endInString [])
        | 'u' :: low =>
          match readHex low with
          | .error e => .error e
          | .ok m =>
            if m < 0xDC00 || 0xDFFF < m then .error (.here .loneSurrogate (low.drop 4))
            else .ok (Char.ofNat ((n - 0xD800) * 0x400 + (m - 0xDC00) + 0x10000), 10)
        | _ => .error (.next .endOfHexEscape more)
      | _ => .error (.next .endOfHexEscape rest)

/-- The character of an escape, of which the backslash has been read, and the number of characters
that it takes. -/
def readEscape (cs : List Char) : Except Fault (Char × Nat) :=
  match cs with
  | [] => .error (.here .endInString [])
  | c :: rest =>
    if c == '"' || c == '\\' || c == '/' then .ok (c, 1)
    else if c == 'b' then .ok ('\x08', 1)
    else if c == 'f' then .ok ('\x0c', 1)
    else if c == 'n' then .ok ('\n', 1)
    else if c == 'r' then .ok ('\r', 1)
    else if c == 't' then .ok ('\t', 1)
    else if c == 'u' then (readUnicode rest).map fun (d, n) => (d, n + 1)
    else .error (.next .invalidEscape cs)

/-- The work of `readString`, with the number of characters still to be skipped. -/
def readStringFrom : Nat → List Char → Except Fault (List Char × List Char)
  | _, [] => .error (.here .endInString [])
  | skip + 1, _ :: cs => readStringFrom skip cs
  | 0, c :: cs =>
    if c == '"' then .ok ([], cs)
    else if c == '\\' then
      match readEscape cs with
      | .error e => .error e
      | .ok (d, n) => (readStringFrom n cs).map fun (s, rest) => (d :: s, rest)
    else if c.toNat < 0x20 then .error (.next .controlCharacter (c :: cs))
    else (readStringFrom 0 cs).map fun (s, rest) => (c :: s, rest)

/-- A string, of which the opening quote has been read. -/
def readString (cs : List Char) : Except Fault (String × List Char) :=
  (readStringFrom 0 cs).map fun (s, rest) => (String.ofList s, rest)

/-! ### Values -/

/-- A word of which the first letter has been read. -/
def readWord (word : List Char) (v : Value) (cs : List Char) :
    Except Fault (Value × List Char) :=
  match word, cs with
  | [], _ => .ok (v, cs)
  | _ :: _, [] => .error (.here .endInValue [])
  | w :: ws, c :: rest => if w = c then readWord ws v rest else .error (.next .expectedIdent cs)

/-- The greatest number of containers around a value. -/
def maxNesting : Nat := 127

mutual

/-- A value, with blanks before it. `room` is the number of containers that may still be opened. -/
def readValue : Nat → Nat → List Char → Except Fault (Value × List Char)
  | 0, _, cs => .error (.here .tooDeep cs)
  | fuel + 1, room, text =>
    let cs := skipSpace text
    match cs with
    | [] => .error (.here .endInValue [])
    | c :: rest =>
      if c == 'n' then readWord ['u', 'l', 'l'] .null rest
      else if c == 't' then readWord ['r', 'u', 'e'] (.bool true) rest
      else if c == 'f' then readWord ['a', 'l', 's', 'e'] (.bool false) rest
      else if c == '-' then readNumber true rest
      else if c.isDigit then readNumber false cs
      else if c == '"' then (readString rest).map fun (s, behind) => (.string s, behind)
      else if c == '[' then
        match room with
        | 0 => .error (.next .tooDeep cs)
        | room + 1 =>
          (readItems fuel room true rest).map fun (items, behind) => (.array items, behind)
      else if c == '{' then
        match room with
        | 0 => .error (.next .tooDeep cs)
        | room + 1 =>
          (readMembers fuel room true rest).map fun (pairs, behind) =>
            (.object (Members.ofPairs pairs), behind)
      else .error (.next .expectedValue cs)
termination_by structural fuel => fuel

/-- The items of an array up to its closing bracket; before all but the first stands a comma. -/
def readItems : Nat → Nat → Bool → List Char → Except Fault (List Value × List Char)
  | 0, _, _, cs => .error (.here .tooDeep cs)
  | fuel + 1, room, first, text =>
    let cs := skipSpace text
    match cs with
    | [] => .error (.here .endInArray [])
    | c :: rest =>
      if c == ']' then .ok ([], rest)
      else if first then readItem fuel room cs
      else if c == ',' then
        match skipSpace rest with
        | [] => .error (.here .endInValue [])
        | ']' :: more => .error (.next .trailingComma (']' :: more))
        | more => readItem fuel room more
      else .error (.next .expectedCommaOrBracket cs)
termination_by structural fuel => fuel

/-- An item and the items behind it. -/
def readItem : Nat → Nat → List Char → Except Fault (List Value × List Char)
  | 0, _, cs => .error (.here .tooDeep cs)
  | fuel + 1, room, cs =>
    match readValue fuel room cs with
    | .error e => .error e
    | .ok (v, rest) =>
      (readItems fuel room false rest).map fun (vs, behind) => (v :: vs, behind)
termination_by structural fuel => fuel

/-- The members of an object up to its closing brace; before all but the first stands a comma. -/
def readMembers : Nat → Nat → Bool → List Char →
    Except Fault (List (String × Value) × List Char)
  | 0, _, _, cs => .error (.here .tooDeep cs)
  | fuel + 1, room, first, text =>
    let cs := skipSpace text
    match cs with
    | [] => .error (.here .endInObject [])
    | c :: rest =>
      if c == '}' then .ok ([], rest)
      else if first then
        if c == '"' then readMember fuel room rest else .error (.next .keyNotString cs)
      else if c == ',' then
        match skipSpace rest with
        | [] => .error (.here .endInValue [])
        | '"' :: more => readMember fuel room more
        | '}' :: more => .error (.next .trailingComma ('}' :: more))
        | more => .error (.next .keyNotString more)
      else .error (.next .expectedCommaOrBrace cs)
termination_by structural fuel => fuel

/-- A member, of which the opening quote of the key has been read, and the members behind it. -/
def readMember : Nat → Nat → List Char → Except Fault (List (String × Value) × List Char)
  | 0, _, cs => .error (.here .tooDeep cs)
  | fuel + 1, room, cs =>
    match readString cs with
    | .error e => .error e
    | .ok (key, rest) =>
      match skipSpace rest with
      | [] => .error (.here .endInObject [])
      | ':' :: more =>
        match readValue fuel room more with
        | .error e => .error e
        | .ok (v, behind) =>
          (readMembers fuel room false behind).map fun (ms, last) => ((key, v) :: ms, last)
      | more => .error (.next .expectedColon more)
termination_by structural fuel => fuel

end

/-- The fuel that suffices for a text. -/
def fuelFor (cs : List Char) : Nat := 3 * cs.length + 3

/-- A text that holds one value and blanks. -/
def parseChars (cs : List Char) : Except Fault Value :=
  match readValue (fuelFor cs) maxNesting cs with
  | .error e => .error e
  | .ok (v, rest) =>
    match skipSpace rest with
    | [] => .ok v
    | more => .error (.next .trailingCharacters more)

/-- The value that a JSON text stands for. -/
def parse (text : String) : Except ReadError Value :=
  (parseChars text.toList).mapError (·.locate text.toList)

end JsonWorkbench.Json
