import JsonWorkbench.Schema.Basic
import JsonWorkbench.Schema.TextFormat

/-!
# Inferring Schemas

A schema is inferred from a document: the type of each value, the format of each text, the
members of each object. The items of an array share one schema, which is merged from the schemas
of the first items. A member whose value is null is not required.

Merging drops repeated schemas first. What is left is merged piece by piece if it has one type,
and is offered as a choice if it has not. Objects are merged key by key; a key is required if all
of them require it.

## Main definitions

* `Schema.merge` — one schema for samples.
* `Schema.infer` — the schema of a document.
* `Schema.describing` — the same with a dialect and a title.
-/

namespace JsonWorkbench.Schema

/-! ### Merging -/

/-- The schemas without those that repeat an earlier one. `kept` are the ones before. -/
def distinctFrom (kept : List Schema) : List Schema → List Schema
  | [] => kept
  | s :: ss =>
    if kept.any (·.same s) then distinctFrom kept ss else distinctFrom (kept ++ [s]) ss

/-- The schemas without those that repeat an earlier one. -/
def distinct (ss : List Schema) : List Schema := distinctFrom [] ss

/-- Properties by key, with all schemas that a key has had, in order. -/
abbrev Groups := List (String × List Schema)

/-- The groups with one more schema under a key. -/
def Groups.add : Groups → String → Schema → Groups
  | [], key, s => [(key, [s])]
  | (k, ss) :: gs, key, s =>
    if k = key then (k, ss ++ [s]) :: gs else (k, ss) :: Groups.add gs key s

/-- The properties of all schemas, grouped by key. -/
def groups (ss : List Schema) : Groups :=
  (ss.flatMap fun s => s.properties.getD []).foldl (fun gs (k, s) => gs.add k s) []

/-- Whether a schema requires a key. -/
def requires (s : Schema) (key : String) : Bool := (s.rules.required.getD []).contains key

/-- A list, unless it is empty. -/
def nonEmpty? (xs : List α) : Option (List α) := if xs.isEmpty then none else some xs

/-- The schema of an object with some properties and required keys. -/
def ofProperties (properties : List (String × Schema)) (required : List String) : Schema :=
  { rules := { type := some (.one .object), required := nonEmpty? required }
    properties := some properties }

/-- The schema of an array whose items have a schema. -/
def ofItems (items : Schema) : Schema :=
  { rules := { type := some (.one .array) }, items := some items }

/-- The first of some schemas, without its format if that is not the format of all. -/
def mergeScalars (first : Schema) (ss : List Schema) : Schema :=
  if ss.all (·.rules.format == first.rules.format) then first
  else { first with rules := { first.rules with format := none } }

/-- Distinct schemas, the first of which is given apart, merged into one. `inner` merges the schemas
that stand inside. -/
def mergeDistinct (inner : List Schema → Schema) (first : Schema) (ss : List Schema) : Schema :=
  match first.singleType with
  | none => { anyOf := some ss }
  | some t =>
    if ss.all (·.singleType == some t) then
      match t with
      | .object =>
        let gs := groups ss
        ofProperties (gs.map fun (k, variants) => (k, inner variants))
          ((gs.map (·.1)).filter fun k => ss.all (·.requires k))
      | .array => ofItems (inner (ss.filterMap (·.items)))
      | _ => mergeScalars first ss
    else { anyOf := some ss }

/-- One schema for schemas that are nested at most so deep. -/
def mergeWithin : Nat → List Schema → Schema
  | 0, _ => {}
  | depth + 1, ss =>
    match distinct ss with
    | [] => {}
    | [s] => s
    | first :: others => mergeDistinct (mergeWithin depth) first (first :: others)

/-- One schema for samples. -/
def merge (ss : List Schema) : Schema := mergeWithin (depthBranches ss) ss

/-! ### Inference -/

/-- The number of items of an array that are looked at. -/
def sampleSize : Nat := 5

mutual

/-- The schema of a value. -/
def infer : Value → Schema
  | .array vs => ofItems (merge (inferItems sampleSize vs))
  | .object ms =>
    ofProperties (inferMembers ms)
      ((ms.filter fun (_, v) => v.kind ≠ .null).map (·.1))
  | .string s =>
    { rules := { type := some (.one .string), format := (detectFormat? s).map TextFormat.name } }
  | .null => ofType .null
  | .bool _ => ofType .boolean
  | .number n => ofType (TypeName.ofValue (.number n))
termination_by structural v => v

/-- The schemas of the first items of a list. -/
def inferItems (count : Nat) : List Value → List Schema
  | [] => []
  | v :: vs =>
    match count with
    | 0 => []
    | count + 1 => infer v :: inferItems count vs
termination_by structural vs => vs

/-- The schemas of the members of an object. -/
def inferMembers : List (String × Value) → List (String × Schema)
  | [] => []
  | (k, v) :: ms => (k, infer v) :: inferMembers ms
termination_by structural ms => ms

end

/-- The dialect of the schemas that are written. -/
def dialectUri : String := "https://json-schema.org/draft/2020-12/schema"

/-- The schema of a document, with the dialect and a title. -/
def describing (v : Value) (title : String) : Schema :=
  let s := infer v
  { s with rules := { s.rules with dialect := some dialectUri, title := some title } }

end JsonWorkbench.Schema
