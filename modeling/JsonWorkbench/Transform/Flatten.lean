import JsonWorkbench.Path.Update

/-!
# Flat Objects

A document as one flat object with a key for every leaf, and back. The key of a leaf is made of
the keys on the way, joined by a separator, and of indices in brackets; an empty container is a
leaf. The way back reads every key as a path and writes the leaf there.

## Main definitions

* `leaves`, `flatten` — the flat object of a document.
* `splitFlatKey` — the path that a flat key stands for.
* `unflatten` — the document of a flat object.
-/

namespace JsonWorkbench

/-! ### Flattening -/

/-- The flat key of a member of the object at a flat key; the empty one is that of the root. -/
def joinKey (separator at_ key : String) : String :=
  if at_.isEmpty then key else at_ ++ separator ++ key

/-- The flat key of an item of the array at a flat key. -/
def joinIndex (at_ : String) (i : Nat) : String := at_ ++ "[" ++ toString i ++ "]"

mutual

/-- The leaves of the value at a flat key, in document order. -/
def leaves (separator at_ : String) : Value → List (String × Value)
  | .array (v :: vs) => leavesItems separator at_ 0 (v :: vs)
  | .object (m :: ms) => leavesMembers separator at_ (m :: ms)
  | leaf => [(at_, leaf)]

/-- The leaves of items, the first of which is at index `i`. -/
def leavesItems (separator at_ : String) (i : Nat) : List Value → List (String × Value)
  | [] => []
  | v :: vs => leaves separator (joinIndex at_ i) v ++ leavesItems separator at_ (i + 1) vs

/-- The leaves of members. -/
def leavesMembers (separator at_ : String) : List (String × Value) → List (String × Value)
  | [] => []
  | (k, v) :: ms => leaves separator (joinKey separator at_ k) v ++ leavesMembers separator at_ ms

end

/-- The flat object of a document. -/
def flatten (separator : String) (v : Value) : Value :=
  .object (Members.ofPairs (leaves separator "" v))

/-! ### Back -/

/-- The indices at the end of a part of a flat key, and the name before them. The part is given
from its end on; every step takes an index in brackets. -/
def splitIndices : Nat → List Char → List Char × List Nat
  | 0, cs => (cs, [])
  | fuel + 1, cs =>
    match cs with
    | ']' :: rest =>
      match rest.span (· != '[') with
      | (_, []) => (cs, [])
      | (digits, _ :: before) =>
        match readIndex? digits.reverse with
        | some i =>
          let (name, indices) := splitIndices fuel before
          (name, indices ++ [i])
        | none => (cs, [])
    | _ => (cs, [])

/-- The segments of a part of a flat key: a name with indices behind it, or indices alone. -/
def partSegments (part : List Char) : Path :=
  let (name, indices) := splitIndices part.length part.reverse
  let key : Path :=
    if name.isEmpty && !indices.isEmpty then [] else [.key (String.ofList name.reverse)]
  key ++ indices.map .index

/-- The path that a flat key stands for. -/
def splitFlatKey (separator key : String) : Path :=
  let parts :=
    if separator.isEmpty then [key.toList] else Text.splitText separator.toList key.toList
  parts.flatMap partSegments

/-- The document after the leaves of flat keys have been written into it one after another. -/
def writeLeaves (separator : String) : List (String × Value) → Value → Except Error Value
  | [], v => .ok v
  | (key, leaf) :: rest, v =>
    match (splitFlatKey separator key).write leaf v with
    | (w, none) => writeLeaves separator rest w
    | (_, some e) => .error e

/-- The document of a flat object. The empty key alone stands for the root; a document in which
nothing has been written is an empty object. -/
def unflatten (separator : String) (flat : Value) : Except Error Value :=
  match flat with
  | .object [("", root)] => .ok root
  | .object ms =>
    (writeLeaves separator ms .null).map fun v =>
      match v with
      | .null => .emptyObject
      | v => v
  | _ => .error (.mismatch .flatInput)

end JsonWorkbench
