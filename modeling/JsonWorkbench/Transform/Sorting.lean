import JsonWorkbench.Path.Update

/-!
# Sorting Arrays

The items of an array in the order of one of their fields. The sort is stable, in both
directions. Values of different kinds are ordered by kind, a missing field counting as null;
truth values, numbers and texts among themselves; all other values of one kind are equal.

## Main definitions

* `compareValues`, `numericKey` — the two orders.
* `sortItems` — the items in order.
* `sortAt` — a document with the array at a path in order.
-/

namespace JsonWorkbench

/-- A number that orders doubles: the negative zero comes before the positive one. -/
def totalKey (x : Float) : Int :=
  let bits := x.toBits.toNat
  if bits < Decimal.signBit then bits else -((bits - Decimal.signBit : Nat) : Int) - 1

/-- The place of a kind in the order of kinds. -/
def Kind.rank : Kind → Nat
  | .null => 0
  | .boolean => 1
  | .number => 2
  | .string => 3
  | .array => 4
  | .object => 5

/-- The order of two fields that may be missing. -/
def compareValues (left right : Option Value) : Ordering :=
  match left.getD .null, right.getD .null with
  | .bool a, .bool b => compare a.toNat b.toNat
  | .number a, .number b => compare (totalKey a.toFloat) (totalKey b.toFloat)
  | .string a, .string b => Value.compareTexts a b
  | a, b => compare a.kind.rank b.kind.rank

/-- The number that a field is sorted by; a field that stands for none counts as zero. -/
def numericKey (field : Option Value) : Float :=
  match field.bind Value.toNumber with
  | some x => if x.isNaN then 0.0 else x
  | none => 0.0

/-- How items are ordered. -/
structure SortOptions where
  /-- The greatest comes first. -/
  descending : Bool := false
  /-- Fields are compared as numbers. -/
  numeric : Bool := false
  deriving Repr, DecidableEq

/-- The order of two items by the field at a path. -/
def compareItems (o : SortOptions) (field : Path) (a b : Value) : Ordering :=
  let left := locate a field
  let right := locate b field
  let ordering :=
    if o.numeric then compare (totalKey (numericKey left)) (totalKey (numericKey right))
    else compareValues left right
  if o.descending then ordering.swap else ordering

/-- The path of a field; a blank text is the item itself. -/
def fieldPath (field : String) : Except Error Path :=
  if (Text.trim field.toList).isEmpty then .ok [] else Path.parse field

/-- The items in the order of a field. -/
def sortItems (o : SortOptions) (field : String) (items : List Value) :
    Except Error (List Value) :=
  (fieldPath field).map fun path =>
    items.mergeSort fun a b => compareItems o path a b != .gt

/-- The document with the array at a path in order; no path is the root. -/
def sortAt (o : SortOptions) (path : Option Path) (field : String) (v : Value) :
    Except Error Value :=
  let location := (path.map Path.text).getD "$"
  let place := path.getD []
  match modifyAt some place v with
  | none => .error (.pathNotFound location)
  | some _ =>
    match locate v place with
    | some (.array items) =>
      match sortItems o field items with
      | .error e => .error e
      | .ok sorted => .ok ((replaceAt place v (.array sorted)).getD v)
    | _ => .error (.mismatch (.sortTarget location))

end JsonWorkbench
