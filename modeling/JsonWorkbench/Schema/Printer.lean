import JsonWorkbench.Json.Printer
import JsonWorkbench.Schema.Basic

/-!
# Writing Schemas

A schema as a value: an object with a member for each rule that is present, in a fixed order. The
bounds of numbers are doubles, also where they are whole.

## Main definitions

* `Schema.toValue` — the schema as a value.
* `Schema.text` — its compact JSON text.
-/

namespace JsonWorkbench

/-- A type as a value: its name. -/
def TypeName.toValue (t : TypeName) : Value := .string t.name

/-- What a schema says about the type, as a value: a name or a list of names. -/
def TypeSpec.toValue : TypeSpec → Value
  | .one t => t.toValue
  | .many ts => .array (ts.map TypeName.toValue)

/-- A member for a rule that is present. -/
def member (key : String) (write : α → Value) : Option α → List (String × Value)
  | none => []
  | some a => [(key, write a)]

namespace Schema

/-- A list of texts as a value. -/
def textsValue (texts : List String) : Value := .array (texts.map .string)

/-- A size as a value. -/
def countValue (n : Nat) : Value := .int n

/-- A bound as a value. -/
def boundValue (x : Float) : Value := .number (.double x)

mutual

/-- A schema as a value. -/
def toValue : Schema → Value
  | ⟨r, properties, items, anyOf⟩ =>
    .object (
      member "$schema" .string r.dialect ++
      member "title" .string r.title ++
      member "type" TypeSpec.toValue r.type ++
      propertiesMember properties ++
      member "required" textsValue r.required ++
      itemsMember items ++
      member "format" .string r.format ++
      anyOfMember anyOf ++
      member "minItems" countValue r.minItems ++
      member "maxItems" countValue r.maxItems ++
      member "minLength" countValue r.minLength ++
      member "maxLength" countValue r.maxLength ++
      member "pattern" .string r.pattern ++
      member "minimum" boundValue r.minimum ++
      member "maximum" boundValue r.maximum ++
      member "enum" .array r.choices)

/-- The member for the properties. -/
def propertiesMember : Option (List (String × Schema)) → List (String × Value)
  | none => []
  | some ps => [("properties", .object (propertyValues ps))]

/-- The properties as members. -/
def propertyValues : List (String × Schema) → List (String × Value)
  | [] => []
  | (k, s) :: ps => (k, s.toValue) :: propertyValues ps

/-- The member for the items. -/
def itemsMember : Option Schema → List (String × Value)
  | none => []
  | some s => [("items", s.toValue)]

/-- The member for the branches. -/
def anyOfMember : Option (List Schema) → List (String × Value)
  | none => []
  | some ss => [("anyOf", .array (schemaValues ss))]

/-- Schemas as values. -/
def schemaValues : List Schema → List Value
  | [] => []
  | s :: ss => s.toValue :: schemaValues ss

end

/-- The compact JSON text of a schema. -/
def text (s : Schema) : String := Json.minify s.toValue

end Schema

end JsonWorkbench
