import JsonWorkbench.Path

/-!
# Differences

The differences between two documents as a list of changes, each at a path. Numbers are compared
by what they denote. Where the kinds differ there is one change and nothing below it; two arrays
are compared index by index; two objects key by key, those of the left document first.

## Main definitions

* `Change`, `Difference` — the changes.
* `diff` — the differences between two documents.
* `ignoring` — the differences whose paths do not start with one of some texts.
* `renderDifferences` — the differences as lines of text.
-/

namespace JsonWorkbench

/-- What has changed at a path. -/
inductive Change where
  /-- There is a value on the right only. -/
  | added (value : Value)
  /-- There is a value on the left only. -/
  | removed (value : Value)
  /-- A scalar has changed, but not its kind. -/
  | valueChange (before after : Value)
  /-- The kind has changed. -/
  | kindChange (before after : Kind) (value : Value)
  /-- The length of an array has changed. -/
  | arrayLength (before after : Nat)

/-- A change and its place. -/
structure Difference where
  /-- The place. -/
  path : Path
  /-- The change. -/
  change : Change

/-! ### Comparing -/

mutual

/-- The differences between two values at a path. -/
def differences (path : Path) : Value → Value → List Difference
  | .array ls, right =>
    match right with
    | .array rs =>
      (if ls.length = rs.length then []
        else [{ path, change := .arrayLength ls.length rs.length }]) ++
        differencesItems path 0 ls rs
    | _ => [{ path, change := .kindChange .array right.kind right }]
  | .object ls, right =>
    match right with
    | .object rs =>
      differencesMembers path ls rs ++
        (rs.filter fun (k, _) => !Members.has ls k).map fun (k, v) =>
          { path := path ++ [.key k], change := .added v }
    | _ => [{ path, change := .kindChange .object right.kind right }]
  | left, right =>
    if left.kind = right.kind then
      if left.looseEq right then [] else [{ path, change := .valueChange left right }]
    else [{ path, change := .kindChange left.kind right.kind right }]

/-- The differences between two lists of items, the first ones being at index `i`. -/
def differencesItems (path : Path) (i : Nat) : List Value → List Value → List Difference
  | [], rs => (rs.zipIdx i).map fun (r, j) =>
      { path := path ++ [.index j], change := .added r }
  | l :: ls, [] =>
    { path := path ++ [.index i], change := .removed l } :: differencesItems path (i + 1) ls []
  | l :: ls, r :: rs =>
    differences (path ++ [.index i]) l r ++ differencesItems path (i + 1) ls rs

/-- The differences of the members of a list against those under the same keys on the right. -/
def differencesMembers (path : Path) :
    List (String × Value) → List (String × Value) → List Difference
  | [], _ => []
  | (k, l) :: ls, rs =>
    (match Members.get? rs k with
      | some r => differences (path ++ [.key k]) l r
      | none => [{ path := path ++ [.key k], change := .removed l }]) ++
      differencesMembers path ls rs

end

/-- The differences between two documents. -/
def diff (left right : Value) : List Difference := differences [] left right

/-- The differences whose path text does not start with one of the given texts. -/
def ignoring (texts : List String) (ds : List Difference) : List Difference :=
  ds.filter fun d => !texts.any fun t => t.toList.isPrefixOf d.path.text.toList

/-! ### Showing -/

/-- The sign of a change. -/
def Change.glyph : Change → String
  | .added _ => "+"
  | .removed _ => "-"
  | .valueChange _ _ => "~"
  | .kindChange _ _ _ => "!"
  | .arrayLength _ _ => "#"

/-- The name of a change in a document. -/
def Change.name : Change → String
  | .added _ => "added"
  | .removed _ => "removed"
  | .valueChange _ _ => "value_change"
  | .kindChange _ _ _ => "type_change"
  | .arrayLength _ _ => "array_length"

/-- A change in words. -/
def Change.describe : Change → String
  | .added value => Json.minify value
  | .removed value => Json.minify value
  | .valueChange before after => s!"{Json.minify before} → {Json.minify after}"
  | .kindChange before after _ => s!"타입 변경 {before.name} → {after.name}"
  | .arrayLength before after => s!"배열 길이 {before} → {after}"

/-- The data of a change as members of an object. -/
def Change.payload : Change → Members
  | .added value => [("value", value)]
  | .removed value => [("value", value)]
  | .valueChange before after => [("from", before), ("to", after)]
  | .kindChange before after value =>
    [("from", .string before.name), ("to", .string after.name), ("value", value)]
  | .arrayLength before after => [("from", .int before), ("to", .int after)]

/-- A difference as a document. -/
def Difference.toValue (d : Difference) : Value :=
  .object (("path", .string d.path.text) :: ("type", .string d.change.name) :: d.change.payload)

/-- A difference as a line of text, without its sign. -/
def Difference.describe (d : Difference) : String := s!"{d.path.text}: {d.change.describe}"

/-- A difference as a line of text with its sign. -/
def Difference.line (d : Difference) : String := s!"  {d.change.glyph} {d.describe}"

/-- The differences as lines of text. -/
def renderDifferences (ds : List Difference) : String := "\n".intercalate (ds.map (·.line))

end JsonWorkbench
