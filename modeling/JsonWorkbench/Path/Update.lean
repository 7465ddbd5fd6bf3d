import JsonWorkbench.Path

/-!
# Writing at a Path

Two ways to change a document at one place. `modifyAt` changes a value that is there. `writeAt`
puts a value there whatever is there: on the way, a null and a missing value become the container
that the next segment needs, and an array grows with nulls up to the index.

A write answers with the document it leaves, also when it fails, so that statements can say what a
failed write has done to the document: containers that it has opened or lengthened stay so. The
memory that a long array of nulls takes is not part of the model.

## Main definitions

* `modifyAt` — change the value at a path, if there is one.
* `Written`, `writeAt` — put a value at a path.
* `Path.write` — the same, with the error in words of the whole path.
-/

namespace JsonWorkbench

/-- The document with the value at a path changed, if the path leads to a value and the change
succeeds. -/
def modifyAt (f : Value → Option Value) : Segments φ → Value → Option Value
  | [], v => f v
  | .key k :: path, .object ms =>
    match Members.get? ms k with
    | some child => (modifyAt f path child).map fun w => .object (Members.insert ms k w)
    | none => none
  | .key k :: path, .array vs =>
    match keyIndex? k with
    | some i =>
      match vs[i]? with
      | some child => (modifyAt f path child).map fun w => .array (vs.set i w)
      | none => none
    | none => none
  | .index i :: path, .array vs =>
    match vs[i]? with
    | some child => (modifyAt f path child).map fun w => .array (vs.set i w)
    | none => none
  | _, _ => none

/-- The document with another value at a path, if the path leads to a value. -/
def replaceAt (path : Segments φ) (v w : Value) : Option Value :=
  modifyAt (fun _ => some w) path v

/-- Why a write failed: the value it met is of a kind that has no such place. -/
structure WriteFault where
  /-- The kind of the value. -/
  found : Kind
  /-- Whether the value was to hold the place itself, and not only to lead to it. -/
  atEnd : Bool
  deriving Repr, DecidableEq

/-- What a write leaves. -/
structure Written where
  /-- The document after the write. -/
  document : Value
  /-- Why it failed, if it did. -/
  fault : Option WriteFault

/-- What a write leaves, with the document put into a larger one. -/
def Written.within (w : Written) (place : Value → Value) : Written :=
  { w with document := place w.document }

/-- The empty container in which a segment names a place. -/
def containerFor : Segment φ → Value
  | .index _ => .array []
  | _ => .object []

/-- The list lengthened with nulls to at least `n` items. -/
def padTo (n : Nat) (vs : List Value) : List Value :=
  vs ++ List.replicate (n - vs.length) .null

/-- The index that a segment names in an array. -/
def arrayIndex? : Segment φ → Option Nat
  | .index i => some i
  | .key k => keyIndex? k
  | _ => none

/-- The value, or the container for a segment where the value is null. -/
def openFor (s : Segment φ) : Value → Value
  | .null => containerFor s
  | v => v

/-- A document after a value has been put at a path of literal segments. -/
def writeAt (new : Value) : Segments φ → Value → Written
  | [], _ => { document := new, fault := none }
  | s :: path, v =>
    match openFor s v, s with
    | .array vs, s =>
      match arrayIndex? s with
      | some i =>
        let padded := padTo (i + 1) vs
        (writeAt new path (padded[i]?.getD .null)).within fun w => .array (padded.set i w)
      | none => { document := .array vs, fault := some { found := .array, atEnd := path.isEmpty } }
    | .object ms, .key k =>
      (writeAt new path ((Members.get? ms k).getD .null)).within fun w =>
        .object (Members.insert ms k w)
    | other, _ =>
      { document := other, fault := some { found := other.kind, atEnd := path.isEmpty } }

/-- The error of a write at a path. -/
def WriteFault.error (path : Path) (f : WriteFault) : Error :=
  if f.atEnd then .mismatch (.atTheEnd path.text f.found)
  else .mismatch (.onTheWay path.text f.found)

/-- The document after a value has been put at a path, and the error if that failed. Only keys and
indices name a place to write at. -/
def Path.write (path : Path) (new document : Value) : Value × Option Error :=
  match path.find? (!·.isLiteral) with
  | some s => (document, some (.invalidPath path.text (.notLiteral (Path.segmentText s))))
  | none =>
    let w := writeAt new path document
    (w.document, w.fault.map (·.error path))

end JsonWorkbench
