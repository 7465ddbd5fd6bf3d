import JsonWorkbench.Value.Basic

/-!
# Equality of Values

Two equalities beside that of the type. `looseEq` takes numbers by what they denote and objects
without regard to the order of their keys; it is what comparisons of documents use. `sameData`
tells `1` from `1.0` and is blind to the order of keys only.

## Main definitions

* `Number.looseEq`, `Value.looseEq` — equal as data, `1` and `1.0` being equal.
* `Number.same`, `Value.sameData` — equal up to the order of keys.
-/

namespace JsonWorkbench

namespace Number

/-- Equality of what two numbers denote: integers exactly, all other pairs as doubles. -/
def looseEq : Number → Number → Bool
  | .integer m, .integer n => m == n
  | a, b => a.toFloat == b.toFloat

/-- Equality of two numbers of one representation. -/
def same : Number → Number → Bool
  | .integer m, .integer n => m == n
  | .double x, .double y => x == y
  | _, _ => false

end Number

namespace Value

mutual

/-- Equality as data: numbers by what they denote, objects without regard to order. -/
def looseEq : Value → Value → Bool
  | .null, .null => true
  | .bool a, .bool b => a == b
  | .number a, .number b => a.looseEq b
  | .string a, .string b => a == b
  | .array xs, .array ys => looseEqItems xs ys
  | .object ms, .object ns => ms.length == ns.length && looseEqMembers ms ns
  | _, _ => false

/-- `looseEq` position by position. -/
def looseEqItems : List Value → List Value → Bool
  | [], [] => true
  | x :: xs, y :: ys => x.looseEq y && looseEqItems xs ys
  | _, _ => false

/-- Whether every member has an equal one under the same key on the other side. -/
def looseEqMembers : List (String × Value) → List (String × Value) → Bool
  | [], _ => true
  | (k, v) :: ms, ns =>
    (match Members.get? ns k with
      | some w => v.looseEq w
      | none => false) && looseEqMembers ms ns

end

mutual

/-- Equality up to the order of keys. -/
def sameData : Value → Value → Bool
  | .null, .null => true
  | .bool a, .bool b => a == b
  | .number a, .number b => a.same b
  | .string a, .string b => a == b
  | .array xs, .array ys => sameItems xs ys
  | .object ms, .object ns => ms.length == ns.length && sameMembers ms ns
  | _, _ => false

/-- `sameData` position by position. -/
def sameItems : List Value → List Value → Bool
  | [], [] => true
  | x :: xs, y :: ys => x.sameData y && sameItems xs ys
  | _, _ => false

/-- Whether every member has the same one under its key on the other side. -/
def sameMembers : List (String × Value) → List (String × Value) → Bool
  | [], _ => true
  | (k, v) :: ms, ns =>
    (match Members.get? ns k with
      | some w => v.sameData w
      | none => false) && sameMembers ms ns

end

end Value

end JsonWorkbench
