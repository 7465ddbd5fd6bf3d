import JsonWorkbench.Text.Hexadecimal
import JsonWorkbench.Text.Letter
import JsonWorkbench.Text.Search

/-!
# Names and Text in Element Documents

Which characters a name is made of, how any text becomes a name, and how the characters that mean
something in a document are written in text.

## Main definitions

* `isNameChar`, `elementName` — names.
* `escapeText`, `unescape` — text with entities, and back.
-/

namespace JsonWorkbench.Xml

/-! ### Names -/

/-- A letter, digit, underscore, hyphen or dot. -/
def isPlainNameChar (c : Char) : Bool := Text.isAlphanumeric c || c == '_' || c == '-' || c == '.'

/-- A character of a name that is read: a colon may stand in it too. -/
def isNameChar (c : Char) : Bool := isPlainNameChar c || c == ':'

/-- A text as a name: other characters become underscores, and what does not begin with a letter
or an underscore gets one in front. -/
def nameOf (cs : List Char) : List Char :=
  let name := cs.map fun c => if isPlainNameChar c then c else '_'
  match name with
  | [] => ['_']
  | c :: _ => if Text.isLetter c || c == '_' then name else '_' :: name

/-- A text as the name of an element. -/
def elementName (key : String) : String := String.ofList (nameOf key.toList)

/-! ### Entities -/

/-- A character in text. -/
def escapeChar (c : Char) : List Char :=
  if c == '&' then "&amp;".toList
  else if c == '<' then "&lt;".toList
  else if c == '>' then "&gt;".toList
  else if c == '"' then "&quot;".toList
  else [c]

/-- A text with entities for the characters that mean something. -/
def escapeText (cs : List Char) : List Char := cs.flatMap escapeChar

/-- A number of at most 32 bits, perhaps behind a plus. -/
def numberOf? (digit? : Char → Option Nat) (base : Nat) (cs : List Char) : Option Nat :=
  let digits :=
    match cs with
    | '+' :: rest => rest
    | _ => cs
  if digits.isEmpty then none
  else
    (digits.foldlM (fun n c => (digit? c).map (base * n + ·)) 0).bind fun n =>
      if n < 0x100000000 then some n else none

/-- The value of a decimal digit. -/
def decimalDigit? (c : Char) : Option Nat := if c.isDigit then some (c.toNat - 48) else none

/-- The character that an entity stands for, of which the ampersand and semicolon are taken
away. -/
def entity? (cs : List Char) : Option Char :=
  if cs = "amp".toList then some '&'
  else if cs = "lt".toList then some '<'
  else if cs = "gt".toList then some '>'
  else if cs = "quot".toList then some '"'
  else if cs = "apos".toList then some '\''
  else
    match cs with
    | '#' :: 'x' :: digits => (numberOf? Text.hexValue? 16 digits).bind Text.scalar?
    | '#' :: 'X' :: digits => (numberOf? Text.hexValue? 16 digits).bind Text.scalar?
    | '#' :: digits => (numberOf? decimalDigit? 10 digits).bind Text.scalar?
    | _ => none

/-- The work of `unescape`, with the number of characters still to be skipped. -/
def unescapeFrom : Nat → List Char → List Char
  | _, [] => []
  | skip + 1, _ :: cs => unescapeFrom skip cs
  | 0, c :: cs =>
    if c == '&' then
      let name := cs.takeWhile (· ≠ ';')
      match if name.length < cs.length then entity? name else none with
      | some x => x :: unescapeFrom (name.length + 1) cs
      | none => c :: unescapeFrom 0 cs
    else c :: unescapeFrom 0 cs

/-- The text that a text with entities stands for. An ampersand that begins no known entity stands
for itself. -/
def unescape (cs : List Char) : List Char := unescapeFrom 0 cs

end JsonWorkbench.Xml
