import JsonWorkbench.Value.Basic

/-!
# The Order of Keys

Objects with their keys in a fixed order, at every depth: first the keys of a list, in the order
of the list, then all others by code points.

## Main definitions

* `orderedKeys` — the keys in that order.
* `sortKeys` — the value with all its objects in that order.
-/

namespace JsonWorkbench

/-- Whether a text comes before another by code points, or is equal to it. -/
def textLe (a b : String) : Bool := !decide (b < a)

/-- The listed keys that are present, then the others by code points. -/
def orderedKeys (order : List String) (keys : List String) : List String :=
  order.filter keys.contains ++ (keys.filter (!order.contains ·)).mergeSort textLe

/-- Members in the order of their keys. -/
def arrange (order : List String) (ms : List (String × Value)) : Members :=
  Members.ofPairs
    ((orderedKeys order (Members.keys ms)).filterMap fun k => (Members.get? ms k).map (k, ·))

mutual

/-- The value with the members of all its objects in order. -/
def sortKeys (order : List String) : Value → Value
  | .array vs => .array (sortKeysItems order vs)
  | .object ms => .object (arrange order (sortKeysMembers order ms))
  | v => v

/-- `sortKeys` for every item. -/
def sortKeysItems (order : List String) : List Value → List Value
  | [] => []
  | v :: vs => sortKeys order v :: sortKeysItems order vs

/-- `sortKeys` for the value of every member. -/
def sortKeysMembers (order : List String) : List (String × Value) → List (String × Value)
  | [] => []
  | (k, v) :: ms => (k, sortKeys order v) :: sortKeysMembers order ms

end

end JsonWorkbench
