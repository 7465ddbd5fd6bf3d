import JsonWorkbench.Error

/-!
# Merging

Deep union of objects, in which the second one wins. Members of both objects are merged in turn
where both are objects; arrays may be joined instead of replaced.

## Main definitions

* `MergeStrategy` — what becomes of two arrays at one place.
* `merge`, `mergeAll` — the union of two values, and of many.
-/

namespace JsonWorkbench

/-- What becomes of two arrays at one place. -/
inductive MergeStrategy where
  /-- The second one replaces the first. -/
  | overwrite
  /-- The items of the second one follow those of the first. -/
  | concatArrays
  deriving Repr, DecidableEq

mutual

/-- The union of two values. -/
def merge (strategy : MergeStrategy) (target : Value) : Value → Value
  | .object ss =>
    match target with
    | .object ts => .object (mergeMembers strategy ts ss)
    | _ => .object ss
  | .array ss =>
    match target, strategy with
    | .array ts, .concatArrays => .array (ts ++ ss)
    | _, _ => .array ss
  | source => source

/-- The members with further ones merged into them one after another. -/
def mergeMembers (strategy : MergeStrategy) (ts : List (String × Value)) :
    List (String × Value) → List (String × Value)
  | [] => ts
  | (k, v) :: ss =>
    mergeMembers strategy
      (Members.insert ts k
        (match Members.get? ts k with
          | some existing => merge strategy existing v
          | none => v)) ss

end

/-- The number, from one, and the kind of the first value that is no object. -/
def firstNonObject? (number : Nat) : List Value → Option (Nat × Kind)
  | [] => none
  | .object _ :: vs => firstNonObject? (number + 1) vs
  | v :: _ => some (number, v.kind)

/-- The union of two or more objects, from the first on. -/
def mergeAll (strategy : MergeStrategy) (vs : List Value) : Except Error Value :=
  match vs with
  | first :: second :: rest =>
    match firstNonObject? 1 vs with
    | some (number, kind) => .error (.mismatch (.mergeInput number kind))
    | none => .ok ((second :: rest).foldl (merge strategy) first)
  | _ => .error (.mismatch (.tooFewInputs vs.length))

end JsonWorkbench
