import JsonWorkbench.Declaration.Basic
import JsonWorkbench.Declaration.Identifier
import JsonWorkbench.Value.Basic

/-!
# Inferring Declarations

The walk over a document that finds its types. Every object gives a declaration, named for the
key that it stands under. A name that is declared already is not declared again; an object inside
one of the same name is declared first and then replaced.

## Main definitions

* `inferType` — the type of a value, and the declarations so far.
* `declarations` — the declarations of a document.
-/

namespace JsonWorkbench

/-- How many items of a list are looked at. -/
def Language.sampleSize (l : Language) : Nat := if l.hasUnions then 10 else 1

/-- The types without those whose text repeats an earlier one. `kept` are the ones before. -/
def distinctTypes (l : Language) (kept : List TypeExpr) : List TypeExpr → List TypeExpr
  | [] => kept
  | t :: ts =>
    if kept.any (·.text l == t.text l) then distinctTypes l kept ts
    else distinctTypes l (kept ++ [t]) ts

/-- The type of a list whose items have some types. -/
def listType (l : Language) (types : List TypeExpr) : TypeExpr :=
  match distinctTypes l [] types with
  | [] => .unknownList
  | [t] => .list t
  | ts => .list (.union ts)

mutual

/-- The type of a value under a name, and the declarations with those that it needs. -/
def inferType (l : Language) (name : String) : Value → Registry → TypeExpr × Registry
  | .null, r => (.basic .null, r)
  | .bool _, r => (.basic .boolean, r)
  | .number n, r => (.basic (if n.isWhole then .integer else .float), r)
  | .string _, r => (.basic .string, r)
  | .array vs, r =>
    let (types, r) := inferItemTypes l (name ++ "Item") l.sampleSize vs r
    (listType l types, r)
  | .object ms, r =>
    let declared := pascalCase name
    if Keyed.has r declared then (.declared declared, r)
    else
      let (fields, r) := inferFields l ms r
      (.declared declared, Keyed.insert r declared fields)
termination_by structural v => v

/-- The types of the first items of a list. -/
def inferItemTypes (l : Language) (name : String) (count : Nat) :
    List Value → Registry → List TypeExpr × Registry
  | [], r => ([], r)
  | v :: vs, r =>
    match count with
    | 0 => ([], r)
    | count + 1 =>
      let (t, r) := inferType l name v r
      let (ts, r) := inferItemTypes l name count vs r
      (t :: ts, r)
termination_by structural vs => vs

/-- The fields for the members of an object. -/
def inferFields (l : Language) : List (String × Value) → Registry → List Declaration.Field × Registry
  | [], r => ([], r)
  | (k, v) :: ms, r =>
    let (t, r) := inferType l k v r
    let (fields, r) := inferFields l ms r
    ({ key := k, type := t, isOptional := v.kind == .null } :: fields, r)
termination_by structural ms => ms

end

/-- The declarations of a document. -/
def declarations (l : Language) (rootName : String) (v : Value) : Registry :=
  (inferType l rootName v []).2

end JsonWorkbench
