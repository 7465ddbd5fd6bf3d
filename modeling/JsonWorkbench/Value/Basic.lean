import JsonWorkbench.Decimal.Binary
import JsonWorkbench.Keyed

/-!
# Values

The values that every document holds. Objects are lists of members in the order in which their
keys came first; a key occurs once (`WellFormed`). Integers and doubles are different numbers
even where they denote the same one: `1` and `1.0` are written differently.

The recursion on values is written as a function on values together with one on lists of items
and one on lists of members, so that every walk over a document is structural.

## Main definitions

* `Number`, `Value` — the values.
* `Members.get?`, `Members.insert`, `Members.erase` — an object as a finite map that keeps order.
* `Value.WellFormed` — integers in the range of 64 bits, finite doubles, indices of 64 bits, no
  repeated key.
* `Value.nesting`, `Value.longestArray` — the size of a value in depth and in breadth.
-/

namespace JsonWorkbench

/-- A number: an integer of 64 bits, signed or unsigned, or a finite double. -/
inductive Number where
  /-- An integer. -/
  | integer (n : Int)
  /-- A double. -/
  | double (x : Float)
  deriving Inhabited

namespace Number

/-- The least integer. -/
def least : Int := -0x8000000000000000

/-- The greatest integer that has a sign. -/
def greatestSigned : Int := 0x7FFFFFFFFFFFFFFF

/-- The greatest integer. -/
def greatest : Int := 0xFFFFFFFFFFFFFFFF

/-- The nearest double. -/
def toFloat : Number → Float
  | .integer n => Decimal.ofInt n
  | .double x => x

/-- Whether the number has no fraction: `1.0` counts as whole. -/
def isWhole : Number → Bool
  | .integer _ => true
  | .double x => (Decimal.toInt? x).isSome

/-- The representable numbers. -/
def WellFormed : Number → Prop
  | .integer n => least ≤ n ∧ n ≤ greatest
  | .double x => x.isFinite = true

instance decidableWellFormed : DecidablePred WellFormed
  | .integer n => inferInstanceAs (Decidable (least ≤ n ∧ n ≤ greatest))
  | .double x => inferInstanceAs (Decidable (x.isFinite = true))

end Number

/-- A value of a document. -/
inductive Value where
  /-- The null value. -/
  | null
  /-- A truth value. -/
  | bool (b : Bool)
  /-- A number. -/
  | number (n : Number)
  /-- A text. -/
  | string (s : String)
  /-- A sequence of values. -/
  | array (items : List Value)
  /-- Values under keys, in order. -/
  | object (members : List (String × Value))
  deriving Inhabited

/-- The members of an object, in order. -/
abbrev Members := List (String × Value)

namespace Members

/-- The value under a key. -/
abbrev get? (ms : Members) (key : String) : Option Value := Keyed.get? ms key

/-- Whether the key is present. -/
abbrev has (ms : Members) (key : String) : Bool := Keyed.has ms key

/-- The keys in order. -/
def keys (ms : Members) : List String := ms.map (·.1)

/-- The members with a value put under a key: a known key keeps its place, a new one comes last. -/
abbrev insert (ms : Members) (key : String) (value : Value) : Members := Keyed.insert ms key value

/-- The members without a key; the others keep their order. -/
def erase (ms : Members) (key : String) : Members := ms.filter (·.1 ≠ key)

/-- The members that a sequence of pairs gives when the pairs are inserted one after another. -/
abbrev ofPairs (pairs : List (String × Value)) : Members := Keyed.ofPairs pairs

end Members

/-- The six kinds of values. -/
inductive Kind where
  | null
  | boolean
  | number
  | string
  | array
  | object
  deriving Repr, DecidableEq, Inhabited

/-- The name of a kind. -/
def Kind.name : Kind → String
  | .null => "null"
  | .boolean => "boolean"
  | .number => "number"
  | .string => "string"
  | .array => "array"
  | .object => "object"

namespace Value

/-- The integer `n` as a value. -/
def int (n : Int) : Value := .number (.integer n)

/-- The double `x` as a value; a double that is not finite has no value of its own. -/
def ofFloat? (x : Float) : Option Value :=
  if x.isFinite then some (.number (.double x)) else none

/-- The object with no members. -/
def emptyObject : Value := .object []

/-- The kind of a value. -/
def kind : Value → Kind
  | .null => .null
  | .bool _ => .boolean
  | .number _ => .number
  | .string _ => .string
  | .array _ => .array
  | .object _ => .object

/-- The name of the kind of a value. -/
def kindName (v : Value) : String := v.kind.name

/-- A summary in one line: the kind, with the size of a container. -/
def describe : Value → String
  | .array items => s!"array ({items.length} items)"
  | .object members => s!"object ({members.length} keys)"
  | v => v.kindName

/-- Whether the value is an array or an object. -/
def isContainer : Value → Bool
  | .array _ | .object _ => true
  | _ => false

/-- The bound of the lengths of arrays: an index has 64 bits. -/
def lengthBound : Nat := 0x10000000000000000

mutual

/-- Numbers and indices are representable and no object has a key twice, at every depth. -/
def WellFormed : Value → Prop
  | .number n => n.WellFormed
  | .array items => items.length < lengthBound ∧ WellFormedItems items
  | .object members => (Members.keys members).Nodup ∧ WellFormedMembers members
  | _ => True

/-- `WellFormed` for every item of a list. -/
def WellFormedItems : List Value → Prop
  | [] => True
  | v :: vs => v.WellFormed ∧ WellFormedItems vs

/-- `WellFormed` for the value of every member of a list. -/
def WellFormedMembers : List (String × Value) → Prop
  | [] => True
  | (_, v) :: ms => v.WellFormed ∧ WellFormedMembers ms

end

mutual

/-- Whether a value is well formed can be computed. -/
def decidableWellFormed : (v : Value) → Decidable v.WellFormed
  | .null | .bool _ | .string _ => .isTrue trivial
  | .number n => Number.decidableWellFormed n
  | .array items =>
    let _ := decidableWellFormedItems items
    inferInstanceAs (Decidable (items.length < lengthBound ∧ WellFormedItems items))
  | .object members =>
    let _ := decidableWellFormedMembers members
    inferInstanceAs (Decidable ((Members.keys members).Nodup ∧ WellFormedMembers members))

/-- `decidableWellFormed` for the items of a list. -/
def decidableWellFormedItems : (vs : List Value) → Decidable (WellFormedItems vs)
  | [] => .isTrue trivial
  | v :: vs => @instDecidableAnd _ _ (decidableWellFormed v) (decidableWellFormedItems vs)

/-- `decidableWellFormed` for the values of members. -/
def decidableWellFormedMembers : (ms : List (String × Value)) → Decidable (WellFormedMembers ms)
  | [] => .isTrue trivial
  | (_, v) :: ms => @instDecidableAnd _ _ (decidableWellFormed v) (decidableWellFormedMembers ms)

end

instance : DecidablePred WellFormed := decidableWellFormed

mutual

/-- How deep the containers of a value are nested; a value that is no container has depth 0. -/
def nesting : Value → Nat
  | .array items => nestingItems items + 1
  | .object members => nestingMembers members + 1
  | _ => 0

/-- The greatest nesting in a list of items. -/
def nestingItems : List Value → Nat
  | [] => 0
  | v :: vs => max v.nesting (nestingItems vs)

/-- The greatest nesting in a list of members. -/
def nestingMembers : List (String × Value) → Nat
  | [] => 0
  | (_, v) :: ms => max v.nesting (nestingMembers ms)

end

mutual

/-- The greatest length of an array in a value, at any depth; 0 if there is none. -/
def longestArray : Value → Nat
  | .array items => max items.length (longestOfItems items)
  | .object members => longestOfMembers members
  | _ => 0

/-- The greatest length of an array in a list of items. -/
def longestOfItems : List Value → Nat
  | [] => 0
  | v :: vs => max v.longestArray (longestOfItems vs)

/-- The greatest length of an array in a list of members. -/
def longestOfMembers : List (String × Value) → Nat
  | [] => 0
  | (_, v) :: ms => max v.longestArray (longestOfMembers ms)

end

end Value

end JsonWorkbench
