import JsonWorkbench.Error
import JsonWorkbench.Text.Blank
import JsonWorkbench.Text.Lines
import JsonWorkbench.Value.Numeral
import JsonWorkbench.Xml.Text

/-!
# Reading Element Documents

The content of the root element is the value. An element with elements inside is an object, and
text beside them is dropped; elements of one name are collected in an array. An element with text
alone is a number, a truth value or a text. Attributes, comments and declarations are skipped.

The functions take the remaining characters; a failure keeps those at its place.

## Main definitions

* `accumulate` — one more element among the members of an object.
* `skipMisc`, `skipAttributes`, `readName` — the pieces around elements.
* `readElement` — an element.
* `decode` — a whole document.
-/

namespace JsonWorkbench.Xml

/-- What is wrong, and the rest of the text at the place of it. -/
structure Failure where
  /-- What is wrong. -/
  fault : XmlFault
  /-- The rest of the text. -/
  left : List Char
  deriving Repr, DecidableEq

/-- A failure at a place. -/
def fail (fault : XmlFault) (cs : List Char) : Except Failure α := .error { fault, left := cs }

/-! ### Values -/

/-- The members with one more element: a second one of the same name makes an array. -/
def accumulate (ms : Members) (name : String) (v : Value) : Members :=
  match ms.get? name with
  | some (.array items) => ms.insert name (.array (items ++ [v]))
  | some first => ms.insert name (.array [first, v])
  | none => ms.insert name v

/-- The members for a sequence of elements. -/
def collect (elements : List (String × Value)) : Members :=
  elements.foldl (fun ms (name, v) => accumulate ms name v) []

/-- The value of an element with text alone. -/
def textValue (cs : List Char) : Value :=
  let text := String.ofList cs
  match coerceNumber? text with
  | some v => v
  | none =>
    if text == "true" then .bool true
    else if text == "false" then .bool false
    else .string text

/-! ### Around elements -/

/-- The text before a terminator, and the text behind it. -/
def cutBehind (terminator : String) (cs : List Char) : Except Failure (List Char × List Char) :=
  match Text.cutAt terminator.toList cs with
  | some parts => .ok parts
  | none => fail (.notTerminated terminator) cs

/-- The terminator of a declaration, comment or type definition that is next. -/
def miscTerminator? (cs : List Char) : Option String :=
  if "<?".toList.isPrefixOf cs then some "?>"
  else if "<!--".toList.isPrefixOf cs then some "-->"
  else if "<!".toList.isPrefixOf cs then some ">"
  else none

/-- The text behind blanks, declarations, comments and type definitions. Every step takes a
character, so their number is enough fuel. -/
def skipMiscFrom : Nat → List Char → Except Failure (List Char)
  | 0, cs => .ok cs
  | fuel + 1, cs =>
    let rest := Text.trimStart cs
    match miscTerminator? rest with
    | none => .ok rest
    | some terminator =>
      match cutBehind terminator rest with
      | .error f => .error f
      | .ok (_, behind) => skipMiscFrom fuel behind

/-- The text behind blanks, declarations, comments and type definitions. -/
def skipMisc (cs : List Char) : Except Failure (List Char) := skipMiscFrom (cs.length + 1) cs

/-- A name. -/
def readName (cs : List Char) : Except Failure (List Char × List Char) :=
  let (name, rest) := cs.span isNameChar
  if name.isEmpty then fail .noName cs else .ok (name, rest)

/-- The text of an opening tag up to the bracket that closes it, and the text behind; brackets in
quotes do not count. -/
def cutTag : Option Char → List Char → Option (List Char × List Char)
  | _, [] => none
  | some q, c :: cs =>
    (cutTag (if c == q then none else some q) cs).map fun (tag, rest) => (c :: tag, rest)
  | none, c :: cs =>
    if c == '>' then some ([], cs)
    else
      (cutTag (if c == '"' || c == '\'' then some c else none) cs).map fun (tag, rest) =>
        (c :: tag, rest)

/-- Whether an opening tag closes its element, and the text behind the tag. -/
def skipAttributes (cs : List Char) : Except Failure (Bool × List Char) :=
  match cutTag none cs with
  | some (tag, rest) => .ok ((Text.trimEnd tag).getLast? == some '/', rest)
  | none => fail .openStartTag cs

/-- The text behind a closing tag, of which the bracket and slash have been read. -/
def readClosing (name cs : List Char) : Except Failure (List Char) := do
  let (closed, rest) ← readName cs
  if closed ≠ name then
    fail (.wrongEndTag (String.ofList name) (String.ofList closed)) rest
  else
    match Text.trimStart rest with
    | '>' :: behind => return behind
    | left => fail .openEndTag left

/-! ### Elements -/

/-- What stands between the tags of an element. -/
structure Content where
  /-- The elements. -/
  elements : List (String × Value)
  /-- The text. -/
  text : List Char

/-- The value of an element. -/
def Content.value (c : Content) : Value :=
  if c.elements.isEmpty then textValue (Text.trim c.text) else .object (collect c.elements)

mutual

/-- An element, of which the opening bracket has been read. -/
def readElement : Nat → List Char → Except Failure ((String × Value) × List Char)
  | 0, cs => fail .noName cs
  | fuel + 1, cs =>
    match readName cs with
    | .error f => .error f
    | .ok (name, rest) =>
      match skipAttributes rest with
      | .error f => .error f
      | .ok (true, behind) => .ok ((String.ofList name, .null), behind)
      | .ok (false, behind) =>
        (readContent fuel name behind).map fun (content, last) =>
          ((String.ofList name, content.value), last)

/-- The content of an element, and the text behind its closing tag. -/
def readContent (fuel : Nat) (name cs : List Char) : Except Failure (Content × List Char) :=
  match fuel with
  | 0 => fail (.noEndTag (String.ofList name)) cs
  | fuel + 1 =>
    if cs.isEmpty then fail (.noEndTag (String.ofList name)) cs
    else if "</".toList.isPrefixOf cs then
      (readClosing name (cs.drop 2)).map fun rest => ({ elements := [], text := [] }, rest)
    else if "<!--".toList.isPrefixOf cs then
      match cutBehind "-->" cs with
      | .error f => .error f
      | .ok (_, rest) => readContent fuel name rest
    else if "<![CDATA[".toList.isPrefixOf cs then
      match cutBehind "]]>" (cs.drop 9) with
      | .error f => .error f
      | .ok (text, rest) =>
        (readContent fuel name rest).map fun (c, last) => ({ c with text := text ++ c.text }, last)
    else if "<?".toList.isPrefixOf cs then
      match cutBehind "?>" cs with
      | .error f => .error f
      | .ok (_, rest) => readContent fuel name rest
    else if cs.head? == some '<' then
      match readElement fuel (cs.drop 1) with
      | .error f => .error f
      | .ok (element, rest) =>
        (readContent fuel name rest).map fun (c, last) =>
          ({ c with elements := element :: c.elements }, last)
    else
      let (text, rest) := cs.span (· ≠ '<')
      (readContent fuel name rest).map fun (c, last) =>
        ({ c with text := unescape text ++ c.text }, last)

end

/-! ### Documents -/

/-- The elements of a document, with the text behind them. Every step takes a character, so their
number is enough fuel. -/
def readRoots : Nat → List Char → Except Failure (List (String × Value) × List Char)
  | 0, cs => .ok ([], cs)
  | fuel + 1, cs =>
    match cs with
    | [] => .ok ([], [])
    | c :: rest =>
      if c ≠ '<' then fail .textOutsideRoot cs
      else
        match readElement (2 * rest.length + 2) rest with
        | .error f => .error f
        | .ok (element, behind) =>
          match skipMisc behind with
          | .error f => .error f
          | .ok next => (readRoots fuel next).map fun (es, last) => (element :: es, last)

/-- The value of a document; the elements of a document with several roots are members. -/
def readDocument (cs : List Char) : Except Failure Value := do
  let start ← skipMisc cs
  let (elements, left) ← readRoots (cs.length + 1) start
  match elements with
  | [] => fail .noRoot left
  | [(_, v)] => return v
  | _ => return .object (collect elements)

/-- The value of a document. -/
def decode (text : String) : Except Error Value :=
  let cs := text.toList
  (readDocument cs).mapError fun f =>
    let (line, column) := Text.positionAt text (Text.byteLength cs - Text.byteLength f.left)
    .decode (.xml line column f.fault)

end JsonWorkbench.Xml
