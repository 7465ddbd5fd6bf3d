import JsonWorkbench.Decimal.Numeral
import JsonWorkbench.Text.Hexadecimal
import JsonWorkbench.Yaml.Cursor
import JsonWorkbench.Yaml.Token

/-!
# Anchors, Tags and Directives

What may stand before a node, a name for it and a type, and what may stand before a document.

## Main definitions

* `readName` — the name of an anchor or a reference.
* `readTag` — a type tag.
* `readDirective` — a directive with the rest of its line.
-/

namespace JsonWorkbench.Yaml

/-! ### Names -/

/-- The characters besides blanks that may stand behind a name. -/
def mayFollowName (c : Char) : Bool :=
  c == '?' || c == ':' || c == ',' || c == ']' || c == '}' || c == '%' || c == '@' || c == '\x60'

/-- A name, of which the character before it has been read. -/
def readName (c : Cursor) : Except Nat (List Char × Cursor) :=
  let (name, behind) := c.span isWordChar
  let ended := endsWord (behind.peek 0) || (behind.rest.head?.map mayFollowName).getD false
  if name.isEmpty || !ended then behind.fault else .ok (name, behind)

/-! ### Tags -/

/-- A character of a tag; some may stand only in a tag between angle brackets. -/
def isTagChar (verbatim : Bool) (c : Char) : Bool :=
  isWordChar c || c == ';' || c == '/' || c == '?' || c == ':' || c == '@' || c == '&' ||
    c == '=' || c == '+' || c == '$' || c == '.' || c == '%' || c == '!' || c == '~' || c == '*' ||
    c == '\'' || c == '(' || c == ')' || (verbatim && (c == ',' || c == '[' || c == ']'))

/-- The octet of a percent escape at the start of a text. -/
def octet? (cs : List Char) : Option Nat :=
  match cs with
  | '%' :: a :: b :: _ => Text.hexNumber? [a, b]
  | _ => none

/-- The octets of percent escapes that continue a character. -/
def trailing? : Nat → Nat → List Char → Option Nat
  | 0, n, _ => some n
  | k + 1, n, cs =>
    match octet? cs with
    | some o => if o / 64 == 2 then trailing? k (n * 64 + o % 64) (cs.drop 3) else none
    | none => none

/-- The number of octets of a character that begins with an octet, and the bits it gives. -/
def leading? (o : Nat) : Option (Nat × Nat) :=
  if o < 0x80 then some (1, o)
  else if o / 32 == 6 then some (2, o % 32)
  else if o / 16 == 14 then some (3, o % 16)
  else if o / 8 == 30 then some (4, o % 8)
  else none

/-- The character that percent escapes at the start of a text stand for, and how many escapes. -/
def escaped? (cs : List Char) : Option (Char × Nat) :=
  (octet? cs).bind fun o =>
    (leading? o).bind fun (count, bits) =>
      (trailing? (count - 1) bits (cs.drop 3)).map fun n => (Char.ofNat n, count)

/-- The work of `readTagText`; every step takes a character, so their number is enough fuel. -/
def readTagTextFrom (verbatim : Bool) : Nat → Cursor → Except Nat (List Char × Cursor)
  | 0, c => .ok ([], c)
  | fuel + 1, c =>
    match c.rest with
    | [] => .ok ([], c)
    | x :: _ =>
      if x == '%' then
        match escaped? c.rest with
        | none => c.fault
        | some (y, count) =>
          (readTagTextFrom verbatim fuel (c.drop (3 * count))).map fun (s, behind) =>
            (y :: s, behind)
      else if isTagChar verbatim x then
        (readTagTextFrom verbatim fuel c.next).map fun (s, behind) => (x :: s, behind)
      else .ok ([], c)

/-- The text of a tag. -/
def readTagText (verbatim : Bool) (c : Cursor) : Except Nat (List Char × Cursor) :=
  readTagTextFrom verbatim (c.rest.length + 1) c

/-- A text of a tag that is not empty. -/
def readSomeTagText (verbatim : Bool) (c : Cursor) : Except Nat (List Char × Cursor) := do
  let (text, behind) ← readTagText verbatim c
  if text.isEmpty then behind.fault else return (text, behind)

/-- An exclamation mark with word characters behind it and, if there is one, a second mark. -/
def readHandle (c : Cursor) : Except Nat (List Char × Cursor) :=
  if !c.isAt '!' then c.fault
  else
    let (name, behind) := c.next.span isWordChar
    if behind.isAt '!' then .ok ('!' :: (name ++ ['!']), behind.next)
    else .ok ('!' :: name, behind)

/-- Whether a handle is closed by a second exclamation mark. -/
def isNamedHandle (handle : List Char) : Bool :=
  handle.length > 1 && handle.getLast? == some '!'

/-- A tag without a look at what follows it. -/
def readTagBody (c : Cursor) : Except Nat (Tag × Cursor) :=
  if c.peek 1 == some '<' then do
    let (suffix, behind) ← readSomeTagText true (c.drop 2)
    if behind.isAt '>' then return ({ handle := [], suffix }, behind.next) else behind.fault
  else do
    let (handle, behind) ← readHandle c
    if isNamedHandle handle then
      let (suffix, last) ← readSomeTagText false behind
      return ({ handle, suffix }, last)
    else
      let (more, last) ← readTagText false behind
      let suffix := handle.drop 1 ++ more
      if suffix.isEmpty then return ({ handle := [], suffix := ['!'] }, last)
      else return ({ handle := ['!'], suffix }, last)

/-- A tag, which a blank must follow or, in a flow collection, a comma. -/
def readTag (flow : Bool) (c : Cursor) : Except Nat (Tag × Cursor) := do
  let (tag, behind) ← readTagBody c
  if endsWord (behind.peek 0) || (flow && behind.isAt ',') then return (tag, behind)
  else behind.fault

/-! ### Directives -/

/-- A part of a version: up to nine digits. -/
def readVersionPart (c : Cursor) : Except Nat (Nat × Cursor) :=
  let (digits, behind) := c.span Char.isDigit
  if digits.isEmpty || digits.length > 9 then behind.fault
  else .ok (Decimal.digitsValue digits, behind)

/-- A directive without the rest of its line; the percent sign has been read. -/
def readDirectiveBody (c : Cursor) : Except Nat (TokenKind × Cursor) := do
  let (name, behind) := c.span isWordChar
  if name.isEmpty || !endsWord (behind.peek 0) then behind.fault
  else
    let arguments := behind.skipWhile isGap
    if name = "YAML".toList then
      let (major, point) ← readVersionPart arguments
      if !point.isAt '.' then point.fault
      else
        let (minor, last) ← readVersionPart point.next
        return (.versionDirective major minor, last)
    else if name = "TAG".toList then
      let (handle, gap) ← readHandle arguments
      if !(isNamedHandle handle || handle = ['!']) then gap.fault
      else if !(gap.rest.head?.map isGap).getD false then gap.fault
      else
        let (start, last) ← readSomeTagText true (gap.skipWhile isGap)
        if endsWord (last.peek 0) then return (.tagDirective handle start, last) else last.fault
    else behind.fault

/-- A directive with the rest of its line. -/
def readDirective (c : Cursor) : Except Nat (TokenKind × Cursor) := do
  let (kind, behind) ← readDirectiveBody c.next
  return (kind, ← behind.endLine)

end JsonWorkbench.Yaml
