import JsonWorkbench.Files.Wildcard

/-!
# Selecting Files

The files that a batch is about: those that fit a pattern with wildcards, the JSON files in a
folder at all depths, or one file. Paths that hold one of some fragments are left out. The rest
is put in the order of paths.

## Main definitions

* `isIgnored` — whether a path holds a fragment.
* `selectFiles` — the files in order, or the error that there is none.
-/

namespace JsonWorkbench.Files

/-- Whether a path holds one of the fragments. -/
def isIgnored (fragments : List String) (path : String) : Bool :=
  fragments.any fun fragment => (Text.cutAt fragment.toList path.toList).isSome

/-- Whether the last name of a path has the extension of JSON, in upper or lower case. -/
def isJsonName (path : String) : Bool :=
  match extension? path.toList with
  | some e => e.map Char.toLower == ['j', 's', 'o', 'n']
  | none => false

variable {m : Type → Type} [Monad m] [FileAccess m]

/-- The JSON files in a folder, down to some depth. -/
def jsonFilesIn : Nat → String → m (List String)
  | 0, _ => return []
  | depth + 1, folder => do
    let found ← (← FileAccess.entries folder).mapM fun name => do
      let path := String.ofList (join folder.toList name.toList)
      match ← FileAccess.kind? path with
      | some .folder => jsonFilesIn depth path
      | some .file => return if isJsonName path then [path] else []
      | none => return []
    return found.flatten

/-- The files that a pattern, a folder or a file names, in no order. -/
def filesOf (pattern : String) : m (Except Error (List String)) := do
  if hasWildcard pattern.toList then
    match ← search pattern with
    | some found => return .ok found
    | none => return .error (.invalidPattern pattern)
  else
    match ← FileAccess.kind? pattern with
    | some .folder => return .ok (← jsonFilesIn maxPath pattern)
    | some .file => return .ok [pattern]
    | none => return .ok []

/-- The files that a pattern names, in order, without those to be ignored. -/
def selectFiles (ignore : List String) (pattern : String) : m (Except Error (List String)) := do
  match ← filesOf pattern with
  | .error e => return .error e
  | .ok found =>
    match (found.filter (!isIgnored ignore ·)).mergeSort pathLe with
    | [] => return .error .noFilesFound
    | files => return .ok files

end JsonWorkbench.Files
