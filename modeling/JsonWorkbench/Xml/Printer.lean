import JsonWorkbench.Json.Printer
import JsonWorkbench.Xml.Text

/-!
# Writing Element Documents

An object is an element with an element for every member, an array is the element of its place
repeated for every item, and everything else is text. Null and empty containers are closed
elements.

## Main definitions

* `elementLines` — the lines of the elements for a value.
* `encode` — a whole document.
-/

namespace JsonWorkbench.Xml

/-- The first line of a document. -/
def declaration : List Char := "<?xml version=\"1.0\" encoding=\"UTF-8\"?>".toList

/-- The indentation of a level. -/
def indentation (level : Nat) : List Char := List.replicate (2 * level) ' '

/-- A closed element. -/
def closedElement (name : List Char) (level : Nat) : List Char :=
  indentation level ++ '<' :: name ++ [' ', '/', '>']

/-- An opening tag. -/
def openTag (name : List Char) : List Char := '<' :: name ++ ['>']

/-- A closing tag. -/
def closeTag (name : List Char) : List Char := '<' :: '/' :: name ++ ['>']

/-- An element on one line. -/
def textElement (name : List Char) (level : Nat) (text : List Char) : List Char :=
  indentation level ++ openTag name ++ text ++ closeTag name

mutual

/-- The lines of the elements of a name for a value. -/
def elementLines (name : List Char) (level : Nat) : Value → List (List Char)
  | .null => [closedElement name level]
  | .array [] => [closedElement name level]
  | .array (v :: vs) => elementLines name level v ++ itemLines name level vs
  | .object [] => [closedElement name level]
  | .object ((k, v) :: ms) =>
    (indentation level ++ openTag name) ::
      (elementLines (nameOf k.toList) (level + 1) v ++ memberLines (level + 1) ms ++
        [indentation level ++ closeTag name])
  | .string s => [textElement name level (escapeText s.toList)]
  | .bool b => [textElement name level (toString b).toList]
  | .number n => [textElement name level (Json.writeNumber n)]

/-- The lines of the elements of a name for each of the values. -/
def itemLines (name : List Char) (level : Nat) : List Value → List (List Char)
  | [] => []
  | v :: vs => elementLines name level v ++ itemLines name level vs

/-- The lines of the elements for the members of an object. -/
def memberLines (level : Nat) : List (String × Value) → List (List Char)
  | [] => []
  | (k, v) :: ms => elementLines (nameOf k.toList) level v ++ memberLines level ms

end

/-- The document of a value, in an element of a given name. -/
def encode (v : Value) (rootName : String) : String :=
  let lines := declaration :: elementLines (nameOf rootName.toList) 0 v
  String.ofList (lines.intersperse ['\n']).flatten

end JsonWorkbench.Xml
