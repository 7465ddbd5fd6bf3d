import JsonWorkbench.Keyed

/-!
# Declarations

The types that are written for a document in some language. A type is kept as what it is, not as
its text: a type of the language, a list, a choice, or the name of a declaration. The text comes
from the language alone.

## Main definitions

* `Language`, `TypeExpr`, `TypeExpr.text` — the languages and the types.
* `Declaration.Field`, `Registry` — declarations by name, in order.
-/

namespace JsonWorkbench

/-- A language in which declarations are written. -/
inductive Language where
  | typeScript
  | go
  | python
  | rust
  deriving Repr, DecidableEq

namespace Language

/-- The name by which a language is chosen. -/
def name : Language → String
  | .typeScript => "typescript"
  | .go => "go"
  | .python => "python"
  | .rust => "rust"

/-- The languages. -/
def all : List Language := [.typeScript, .go, .python, .rust]

/-- The language with a name. -/
def ofName? (text : String) : Option Language := all.find? (·.name == text)

/-- Whether the language has choices between types. -/
def hasUnions : Language → Bool
  | .typeScript => true
  | _ => false

end Language

/-- The types that a language has of its own. -/
inductive BasicType where
  | string
  | integer
  | float
  | boolean
  | null
  deriving Repr, DecidableEq

/-- The text of a basic type. -/
def BasicType.text (b : BasicType) : Language → String
  | .typeScript =>
    match b with
    | .string => "string"
    | .integer | .float => "number"
    | .boolean => "boolean"
    | .null => "null"
  | .go =>
    match b with
    | .string => "string"
    | .integer => "int"
    | .float => "float64"
    | .boolean => "bool"
    | .null => "interface\x7b\x7d"
  | .python =>
    match b with
    | .string => "str"
    | .integer => "int"
    | .float => "float"
    | .boolean => "bool"
    | .null => "Any"
  | .rust =>
    match b with
    | .string => "String"
    | .integer => "i64"
    | .float => "f64"
    | .boolean => "bool"
    | .null => "serde_json::Value"

/-- A type. -/
inductive TypeExpr where
  /-- A type of the language. -/
  | basic (b : BasicType)
  /-- A list of which no item is known. -/
  | unknownList
  /-- A list. -/
  | list (item : TypeExpr)
  /-- A choice. -/
  | union (types : List TypeExpr)
  /-- A declared type. -/
  | declared (name : String)

/-- The text of a list with items of a type. -/
def listText (item : String) : Language → String
  | .typeScript => item ++ "[]"
  | .go => "[]" ++ item
  | .python => "List[" ++ item ++ "]"
  | .rust => "Vec<" ++ item ++ ">"

/-- The text of a list of which no item is known. -/
def unknownListText : Language → String
  | .typeScript => "unknown[]"
  | .go => "[]interface\x7b\x7d"
  | .python => "List[Any]"
  | .rust => "Vec<serde_json::Value>"

mutual

/-- The text of a type. -/
def TypeExpr.text (l : Language) : TypeExpr → String
  | .basic b => b.text l
  | .unknownList => unknownListText l
  | .list item => listText (item.text l) l
  | .union types => "(" ++ " | ".intercalate (textsOf l types) ++ ")"
  | .declared name => name
termination_by structural t => t

/-- The texts of types. -/
def textsOf (l : Language) : List TypeExpr → List String
  | [] => []
  | t :: ts => t.text l :: textsOf l ts
termination_by structural ts => ts

end

/-- A field of a declaration. -/
structure Declaration.Field where
  /-- The key that it stands for. -/
  key : String
  /-- The type. -/
  type : TypeExpr
  /-- Whether the field may be absent. -/
  isOptional : Bool

/-- Declarations by name, in order. -/
abbrev Registry := List (String × List Declaration.Field)

/-- How declarations are written. -/
structure DeclarationOptions where
  /-- The name of the type of the document. -/
  rootName : String := "Root"
  /-- Whether declarations are exported, in a language that knows the word. -/
  isExported : Bool := true
  /-- The package, in a language that asks for one. -/
  package : String := "main"

end JsonWorkbench
