import JsonWorkbench.Path

/-!
# Selecting from Arrays and Objects

The items of an array that satisfy a condition, the items reduced to some of their fields, and the
keys of an object down to a depth.

## Main definitions

* `filterItems`, `selectFields` — rows and columns of an array.
* `listKeys` — the keys of nested objects.
-/

namespace JsonWorkbench

/-- The items that satisfy a condition. -/
def filterItems (c : Condition) (items : List Value) : List Value := items.filter c.isMet

/-- The paths of field names, with the names. -/
def fieldPaths (fields : List String) : Except Error (List (String × Path)) :=
  fields.mapM fun f => (Path.parse f).map (f, ·)

/-- Every item as an object of some of its fields under their names; missing ones are left out. -/
def selectFields (fields : List String) (items : List Value) : Except Error (List Value) :=
  (fieldPaths fields).map fun paths =>
    items.map fun item =>
      .object (Members.ofPairs (paths.filterMap fun (name, p) => (locate item p).map (name, ·)))

/-- The name of a member of the object with a name. -/
def qualifiedName (at_ key : String) : String :=
  if at_.isEmpty then key else at_ ++ "." ++ key

/-- The names of the keys of an object and of the objects in it, down to a depth. Arrays are not
entered. -/
def keysWithin (at_ : String) : Nat → Value → List String
  | depth + 1, .object ms =>
    ms.flatMap fun (k, v) =>
      let name := qualifiedName at_ k
      name :: keysWithin name depth v
  | _, _ => []

/-- The names of the keys of a document, down to a depth. -/
def listKeys (depth : Nat) (v : Value) : List String := keysWithin "" depth v

/-- The parts of a list in words, separated by commas; blank parts are left out. -/
def splitList (text : String) : List String :=
  ((Text.pieces (· == ',') text.toList).map fun p => String.ofList (Text.trim p)).filter
    (!·.isEmpty)

end JsonWorkbench
