import JsonWorkbench.Path

/-!
# Queries

What a path selects in a document. A literal segment leads on or finds nothing. A star, a slice
and a filter ask for an array; they and a descent follow the rest of the path from each selected
value and collect what is found in an array, so that every such segment adds one level of arrays.

## Main definitions

* `descendants` — the values under a key at any depth, in document order.
* `query` — what a path selects.
* `queryText`, `querySimple` — the same for a text, and for paths without advanced segments.
-/

namespace JsonWorkbench

mutual

/-- The values under a key at any depth, a match before the matches inside it. -/
def descendants (key : String) : Value → List Value
  | .array vs => descendantsItems key vs
  | .object ms => descendantsMembers key ms
  | _ => []

/-- `descendants` of the items of a list. -/
def descendantsItems (key : String) : List Value → List Value
  | [] => []
  | v :: vs => descendants key v ++ descendantsItems key vs

/-- The values of the members with the key, each before its own descendants. -/
def descendantsMembers (key : String) : List (String × Value) → List Value
  | [] => []
  | (k, v) :: ms =>
    (if k = key then [v] else []) ++ (descendants key v ++ descendantsMembers key ms)

end

/-- The items between two bounds; a missing bound is an end of the list, and a second bound before
the first selects nothing. -/
def sliceOf (first last : Option Nat) (vs : List Value) : List Value :=
  let start := min (first.getD 0) vs.length
  let stop := last.getD vs.length
  (vs.take stop).drop start

/-- What a path selects in a value. -/
def query : Path → Value → Option Value
  | [], v => some v
  | s :: path, v =>
    match s, v with
    | .wildcard, .array vs => some (.array (vs.filterMap (query path)))
    | .slice first last, .array vs => some (.array ((sliceOf first last vs).filterMap (query path)))
    | .filter c, .array vs => some (.array ((vs.filter c.isMet).filterMap (query path)))
    | .descendant k, v => some (.array ((descendants k v).filterMap (query path)))
    | s, v => (step v s).bind (query path)

/-- What the path of a text selects. -/
def queryText (text : String) (v : Value) : Except Error (Option Value) :=
  (Path.parse text).map (query · v)

/-- What a path of keys, indices and stars selects. -/
def querySimple (path : Path) (v : Value) : Except Error (Option Value) :=
  if path.isAdvanced then .error (.invalidPath path.text .notSimple) else .ok (query path v)

end JsonWorkbench
