import JsonWorkbench.Declaration.Inference

/-!
# Writing Declarations

The text of declarations in each language: how a key becomes the name of a field, how a field is
written, and what stands around the declarations.

## Main definitions

* `Language.fieldName` — the name of the field for a key.
* `Registry.render` — the text of declarations.
* `generateTypes` — the text of the declarations of a document.
-/

namespace JsonWorkbench

/-! ### Names of fields -/

/-- Whether a key can stand as the name of a property as it is. -/
def isPropertyName (key : String) : Bool :=
  let isPart (c : Char) : Bool := c.isAlphanum || c == '_' || c == '$'
  match key.toList with
  | [] => false
  | c :: cs => isPart c && !c.isDigit && cs.all isPart

/-- A key as the name of a property: as it is, or quoted. -/
def propertyName (key : String) : String :=
  if isPropertyName key then key
  else
    let escaped := Text.replaceText ['\''] ['\\', '\'']
      (Text.replaceText ['\\'] ['\\', '\\'] key.toList)
    String.ofList ('\'' :: escaped ++ ['\''])

/-- A lower-case name that does not start with a digit. -/
def plainFieldName (key : String) : String :=
  let name := snakeCase key
  match name.toList with
  | c :: _ => if c.isDigit then "_" ++ name else name
  | [] => name

/-- The words that are no names in Python. -/
def pythonWords : List String :=
  ["False", "None", "True", "and", "as", "assert", "async", "await", "break", "class", "continue",
   "def", "del", "elif", "else", "except", "finally", "for", "from", "global", "if", "import", "in",
   "is", "lambda", "nonlocal", "not", "or", "pass", "raise", "return", "try", "while", "with",
   "yield"]

/-- The name of a field in Python: a word that is no name gets an underscore. -/
def pythonFieldName (key : String) : String :=
  let name := plainFieldName key
  if pythonWords.contains name then name ++ "_" else name

/-- The words that are names in Rust only behind a mark. -/
def rustWords : List String :=
  ["as", "async", "await", "break", "const", "continue", "crate", "dyn", "else", "enum", "extern",
   "false", "fn", "for", "if", "impl", "in", "let", "loop", "match", "mod", "move", "mut", "pub",
   "ref", "return", "static", "struct", "super", "trait", "true", "type", "unsafe", "use", "where",
   "while", "yield"]

/-- The words that are no names in Rust, also behind a mark. -/
def rustPathWords : List String := ["crate", "self", "super"]

/-- The name of a field in Rust. -/
def rustFieldName (key : String) : String :=
  let name := plainFieldName key
  if rustPathWords.contains name then name ++ "_"
  else if rustWords.contains name then "r#" ++ name
  else name

/-- Whether a field in Rust has to say which key it stands for. -/
def needsRename (key : String) : Bool :=
  let name := plainFieldName key
  rustPathWords.contains name || name ≠ key

/-- The name of the field for a key. -/
def Language.fieldName (key : String) : Language → String
  | .typeScript => propertyName key
  | .go => pascalCase key
  | .python => pythonFieldName key
  | .rust => rustFieldName key

/-! ### Fields and declarations -/

/-- A key between quotes; only quotes are escaped. -/
def renameLiteral (key : String) : String :=
  "\"" ++ String.ofList (Text.replaceText ['"'] ['\\', '"'] key.toList) ++ "\""

/-- The name of a field. -/
def Declaration.Field.name (f : Declaration.Field) (l : Language) : String := l.fieldName f.key

/-- The line or the lines of a field. -/
def Declaration.Field.render (f : Declaration.Field) (l : Language) : String :=
  let name := f.name l
  let type := f.type.text l
  match l with
  | .typeScript => "  " ++ name ++ (if f.isOptional then "?" else "") ++ ": " ++ type ++ ";\n"
  | .go =>
    let tag := f.key ++ (if f.isOptional then ",omitempty" else "")
    "\t" ++ name ++ " " ++ type ++ " \x60json:\"" ++ tag ++ "\"\x60\n"
  | .python =>
    if f.isOptional then "    " ++ name ++ ": Optional[" ++ type ++ "] = None"
    else "    " ++ name ++ ": " ++ type
  | .rust =>
    let rename :=
      if needsRename f.key then "    #[serde(rename = " ++ renameLiteral f.key ++ ")]\n" else ""
    let shown := if f.isOptional then "Option<" ++ type ++ ">" else type
    rename ++ "    pub " ++ name ++ ": " ++ shown ++ ",\n"

/-- The lines of fields that end their own lines. -/
def renderFields (l : Language) (fields : List Declaration.Field) : String :=
  String.join (fields.map (·.render l))

/-- The lines of the fields of a class: those that may be absent come last. -/
def renderClassBody (fields : List Declaration.Field) : String :=
  if fields.isEmpty then "    pass"
  else
    let (optional, needed) := fields.partition (·.isOptional)
    "\n".intercalate ((needed ++ optional).map (·.render .python))

/-- A declaration. -/
def renderDeclaration (l : Language) (o : DeclarationOptions) (name : String)
    (fields : List Declaration.Field) : String :=
  match l with
  | .typeScript =>
    (if o.isExported then "export " else "") ++ "interface " ++ name ++ " \x7b\n" ++
      renderFields l fields ++ "\x7d"
  | .go => "type " ++ name ++ " struct \x7b\n" ++ renderFields l fields ++ "\x7d"
  | .python => "@dataclass\nclass " ++ name ++ ":\n" ++ renderClassBody fields
  | .rust =>
    "#[derive(Debug, Clone, Serialize, Deserialize)]\npub struct " ++ name ++ " \x7b\n" ++
      renderFields l fields ++ "\x7d"

/-- What stands before the declarations. -/
def Language.header (o : DeclarationOptions) : Language → String
  | .typeScript => ""
  | .go => "package " ++ o.package ++ "\n\n"
  | .python => "from dataclasses import dataclass\nfrom typing import Any, List, Optional\n\n\n"
  | .rust => "use serde::\x7bDeserialize, Serialize\x7d;\n\n"

/-- What stands between two declarations. -/
def Language.gap : Language → String
  | .python => "\n\n\n"
  | _ => "\n\n"

/-- The text of declarations. -/
def Registry.render (r : Registry) (l : Language) (o : DeclarationOptions) : String :=
  l.header o ++ l.gap.intercalate (r.map fun (name, fields) => renderDeclaration l o name fields)

/-- The text of the declarations of a document. -/
def generateTypes (l : Language) (o : DeclarationOptions) (v : Value) : String :=
  (declarations l o.rootName v).render l o

end JsonWorkbench
