import JsonWorkbench.Diff.Basic

/-!
# Patches

A patch is a list of operations at JSON pointers. The first part makes the patch of a list of
differences; the second part is the meaning of patches: what a pointer leads to, and what the
operations, applied one after another, make of a document. A removal shifts the later items of an
array down, an addition at the length of an array appends, and an operation at a place that does
not exist fails.

## Main definitions

* `PatchOperation`, `toPatch` — the patch of differences.
* `pointerTokens?`, `resolve` — the meaning of pointers.
* `PatchOperation.apply`, `applyPatch` — the meaning of patches.
-/

namespace JsonWorkbench

/-- What an operation does. -/
inductive PatchOp where
  | add
  | remove
  | replace
  deriving Repr, DecidableEq

/-- The name of an operation in a patch document. -/
def PatchOp.name : PatchOp → String
  | .add => "add"
  | .remove => "remove"
  | .replace => "replace"

/-- An operation at a pointer. -/
structure PatchOperation where
  /-- What is done. -/
  op : PatchOp
  /-- Where it is done. -/
  pointer : String
  /-- The new value, if there is one. -/
  value : Option Value

/-- The operation for a difference; a changed length needs none. -/
def Difference.toOperation? (d : Difference) : Option PatchOperation :=
  let pointer := d.path.pointer
  match d.change with
  | .added value => some { op := .add, pointer, value := some value }
  | .removed _ => some { op := .remove, pointer, value := none }
  | .valueChange _ after => some { op := .replace, pointer, value := some after }
  | .kindChange _ _ value => some { op := .replace, pointer, value := some value }
  | .arrayLength _ _ => none

/-- The patch of a list of differences. -/
def toPatch (ds : List Difference) : List PatchOperation :=
  ds.filterMap Difference.toOperation?

/-- An operation as a document. -/
def PatchOperation.toValue (p : PatchOperation) : Value :=
  .object (("op", .string p.op.name) :: ("path", .string p.pointer) ::
    (p.value.map fun v => ("value", v)).toList)

/-- A patch as a document. -/
def patchValue (patch : List PatchOperation) : Value :=
  .array (patch.map PatchOperation.toValue)

/-! ### The meaning of pointers -/

/-- A reference token with its escapes undone: first those of the slash, then those of the
tilde. -/
def unescapeToken (cs : List Char) : List Char :=
  Text.replaceText ['~', '0'] ['~'] (Text.replaceText ['~', '1'] ['/'] cs)

/-- The reference tokens of a pointer: the empty text has none, any other starts with a slash. -/
def pointerTokens? (pointer : String) : Option (List String) :=
  match pointer.toList with
  | [] => some []
  | '/' :: cs =>
    some ((Text.pieces (· == '/') cs).map fun t => String.ofList (unescapeToken t))
  | _ => none

/-- The array index of a token: digits without a leading zero. -/
def tokenIndex? (token : String) : Option Nat :=
  let cs := token.toList
  if !cs.isEmpty && cs.all Char.isDigit && (cs.length == 1 || cs.head? != some '0') then
    some (Decimal.digitsValue cs)
  else none

/-- The value that reference tokens lead to. -/
def resolve : List String → Value → Option Value
  | [], v => some v
  | t :: ts, .object ms => (Members.get? ms t).bind (resolve ts)
  | t :: ts, .array vs => ((tokenIndex? t).bind (vs[·]?)).bind (resolve ts)
  | _ :: _, _ => none

/-- The value that a pointer leads to. -/
def resolvePointer (pointer : String) (v : Value) : Option Value :=
  (pointerTokens? pointer).bind (resolve · v)

/-! ### The meaning of patches -/

/-- The container with an operation done at one token. -/
def applyHere (op : PatchOp) (new : Option Value) (token : String) : Value → Option Value
  | .object ms =>
    match op, new with
    | .add, some v => some (.object (Members.insert ms token v))
    | .replace, some v =>
      if Members.has ms token then some (.object (Members.insert ms token v)) else none
    | .remove, _ => if Members.has ms token then some (.object (Members.erase ms token)) else none
    | _, none => none
  | .array vs =>
    match op, new with
    | .add, some v =>
      if token = "-" then some (.array (vs ++ [v]))
      else
        (tokenIndex? token).bind fun i =>
          if i ≤ vs.length then some (.array (vs.take i ++ v :: vs.drop i)) else none
    | .replace, some v =>
      (tokenIndex? token).bind fun i => if i < vs.length then some (.array (vs.set i v)) else none
    | .remove, _ =>
      (tokenIndex? token).bind fun i =>
        if i < vs.length then some (.array (vs.eraseIdx i)) else none
    | _, none => none
  | _ => none

/-- The value with an operation done at reference tokens. -/
def applyAt (op : PatchOp) (new : Option Value) : List String → Value → Option Value
  | [], _ =>
    match op with
    | .remove => none
    | _ => new
  | [t], v => applyHere op new t v
  | t :: ts, .object ms =>
    match Members.get? ms t with
    | some child => (applyAt op new ts child).map fun w => .object (Members.insert ms t w)
    | none => none
  | t :: ts, .array vs =>
    match tokenIndex? t with
    | some i =>
      match vs[i]? with
      | some child => (applyAt op new ts child).map fun w => .array (vs.set i w)
      | none => none
    | none => none
  | _ :: _, _ => none

/-- The document with one operation done, if its place exists. -/
def PatchOperation.apply (p : PatchOperation) (v : Value) : Option Value :=
  (pointerTokens? p.pointer).bind (applyAt p.op p.value · v)

/-- The document with the operations done one after another, if the place of each exists. -/
def applyPatch (patch : List PatchOperation) (v : Value) : Option Value :=
  patch.foldlM (fun w p => p.apply w) v

end JsonWorkbench
