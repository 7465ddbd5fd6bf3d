import JsonWorkbench.Value.Equality

/-!
# Schemas

A schema describes which values are admitted. What it says of a value by itself, its kind, its
size, its range, is kept in one record of optional rules; what it says of the values inside is
kept beside it, in the three places where schemas nest. An absent rule admits everything.

Walks over a schema are written as a function on schemas together with one for each kind of
place, so that every one of them is structural.

## Main definitions

* `TypeName`, `TypeSpec` — the types of values, and what a schema says about them.
* `Rules`, `Schema` — the schemas.
* `Schema.same` — equality up to the order of properties.
* `Schema.depth` — how deep a schema is nested.
-/

namespace JsonWorkbench

/-- The type of a value, as schemas distinguish it. -/
inductive TypeName where
  | null
  | boolean
  | string
  | number
  | integer
  | object
  | array
  deriving Repr, DecidableEq, Inhabited

namespace TypeName

/-- The name of a type. -/
def name : TypeName → String
  | .null => "null"
  | .boolean => "boolean"
  | .string => "string"
  | .number => "number"
  | .integer => "integer"
  | .object => "object"
  | .array => "array"

/-- All types. -/
def all : List TypeName := [.null, .boolean, .string, .number, .integer, .object, .array]

/-- The type with a name. -/
def ofName? (text : String) : Option TypeName := all.find? (·.name == text)

/-- The type of a value; a number without a fraction is an integer. -/
def ofValue : Value → TypeName
  | .null => .null
  | .bool _ => .boolean
  | .number n => if n.isWhole then .integer else .number
  | .string _ => .string
  | .array _ => .array
  | .object _ => .object

/-- Whether a value of the type `actual` is admitted where `t` is asked for: integers are
numbers. -/
def accepts (t actual : TypeName) : Bool :=
  t == actual || (t == .number && actual == .integer)

end TypeName

/-- What a schema says about the type: one, or a choice. -/
inductive TypeSpec where
  /-- One type. -/
  | one (t : TypeName)
  /-- A choice of types. -/
  | many (ts : List TypeName)
  deriving Repr, DecidableEq

namespace TypeSpec

/-- Whether a value of the type `actual` is admitted. -/
def accepts (actual : TypeName) : TypeSpec → Bool
  | .one t => t.accepts actual
  | .many ts => ts.any (·.accepts actual)

/-- The names of the types, for a message. -/
def names : TypeSpec → String
  | .one t => t.name
  | .many ts => " | ".intercalate (ts.map TypeName.name)

end TypeSpec

/-- What a schema says of a value by itself. -/
structure Rules where
  /-- The dialect in which the schema is written. -/
  dialect : Option String := none
  /-- A title. -/
  title : Option String := none
  /-- The type. -/
  type : Option TypeSpec := none
  /-- The keys that an object must have. -/
  required : Option (List String) := none
  /-- The format of a string. -/
  format : Option String := none
  /-- The least number of items. -/
  minItems : Option Nat := none
  /-- The greatest number of items. -/
  maxItems : Option Nat := none
  /-- The least number of characters. -/
  minLength : Option Nat := none
  /-- The greatest number of characters. -/
  maxLength : Option Nat := none
  /-- A regular expression that a string must match. -/
  pattern : Option String := none
  /-- The least number. -/
  minimum : Option Float := none
  /-- The greatest number. -/
  maximum : Option Float := none
  /-- The values that are admitted. -/
  choices : Option (List Value) := none
  deriving Inhabited

/-- A schema. -/
structure Schema where
  /-- What it says of a value by itself. -/
  rules : Rules := {}
  /-- The schemas of the members of an object, by key. -/
  properties : Option (List (String × Schema)) := none
  /-- The schema of every item of an array. -/
  items : Option Schema := none
  /-- Schemas of which one must be satisfied. -/
  anyOf : Option (List Schema) := none
  deriving Inhabited

namespace Schema

/-- The schema that asks for a type and nothing else. -/
def ofType (t : TypeName) : Schema := { rules := { type := some (.one t) } }

/-- The type, if the schema asks for exactly one. -/
def singleType (s : Schema) : Option TypeName :=
  match s.rules.type with
  | some (.one t) => some t
  | _ => none

/-! ### Equality -/

end Schema

/-- Equality of two options by a relation. -/
def sameOption (same : α → α → Bool) : Option α → Option α → Bool
  | none, none => true
  | some a, some b => same a b
  | _, _ => false

/-- Equality of rules: values up to the order of keys, bounds as doubles. -/
def Rules.same (a b : Rules) : Bool :=
  a.dialect == b.dialect && a.title == b.title && a.type == b.type && a.required == b.required &&
    a.format == b.format && a.minItems == b.minItems && a.maxItems == b.maxItems &&
    a.minLength == b.minLength && a.maxLength == b.maxLength && a.pattern == b.pattern &&
    a.minimum == b.minimum && a.maximum == b.maximum &&
    sameOption Value.sameItems a.choices b.choices

namespace Schema

mutual

/-- Equality of schemas, without regard to the order of properties. -/
def same : Schema → Schema → Bool
  | ⟨rules, properties, items, anyOf⟩, t =>
    rules.same t.rules && sameProperties? properties t.properties && sameItem? items t.items &&
      sameBranches? anyOf t.anyOf
termination_by structural s => s

/-- Equality of optional properties. -/
def sameProperties? : Option (List (String × Schema)) → Option (List (String × Schema)) → Bool
  | none, none => true
  | some ps, some qs => ps.length == qs.length && sameProperties ps qs
  | _, _ => false
termination_by structural s => s

/-- Whether every property has the same schema on the other side. -/
def sameProperties : List (String × Schema) → List (String × Schema) → Bool
  | [], _ => true
  | (k, s) :: ps, qs =>
    (match Keyed.get? qs k with
      | some t => s.same t
      | none => false) && sameProperties ps qs
termination_by structural s => s

/-- Equality of optional schemas. -/
def sameItem? : Option Schema → Option Schema → Bool
  | none, none => true
  | some s, some t => s.same t
  | _, _ => false
termination_by structural s => s

/-- Equality of optional lists of schemas. -/
def sameBranches? : Option (List Schema) → Option (List Schema) → Bool
  | none, none => true
  | some ss, some ts => sameBranches ss ts
  | _, _ => false
termination_by structural s => s

/-- Equality position by position. -/
def sameBranches : List Schema → List Schema → Bool
  | [], [] => true
  | s :: ss, t :: ts => s.same t && sameBranches ss ts
  | _, _ => false
termination_by structural s => s

end

/-! ### Nesting -/

mutual

/-- How deep schemas stand inside a schema; a schema without others inside has depth 1. -/
def depth : Schema → Nat
  | ⟨_, properties, items, anyOf⟩ =>
    max (depthProperties? properties) (max (depthItem? items) (depthBranches? anyOf)) + 1

/-- The greatest depth of a property. -/
def depthProperties? : Option (List (String × Schema)) → Nat
  | none => 0
  | some ps => depthProperties ps

/-- The greatest depth in a list of properties. -/
def depthProperties : List (String × Schema) → Nat
  | [] => 0
  | (_, s) :: ps => max s.depth (depthProperties ps)

/-- The depth of an optional schema. -/
def depthItem? : Option Schema → Nat
  | none => 0
  | some s => s.depth

/-- The greatest depth of a branch. -/
def depthBranches? : Option (List Schema) → Nat
  | none => 0
  | some ss => depthBranches ss

/-- The greatest depth in a list of schemas. -/
def depthBranches : List Schema → Nat
  | [] => 0
  | s :: ss => max s.depth (depthBranches ss)

end

end Schema

end JsonWorkbench
