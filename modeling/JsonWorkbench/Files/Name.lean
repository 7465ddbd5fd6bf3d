import JsonWorkbench.Text.Search

/-!
# File Names

What the text of a file path says by itself, without a look at any file: its parts, its last
name, the folder that it names, and paths made from others.

Empty parts count for nothing, and neither does a dot, except at the very start: `./a` is not `a`
where paths are put in order.

## Main definitions

* `Part`, `parts` — a path as a list of steps.
* `lastName?`, `parent`, `stem`, `extension?` — the pieces of a path.
* `join`, `withName` — paths from others.
* `pathLe` — the order of paths, part by part.
-/

namespace JsonWorkbench.Files

/-- A step of a path. -/
inductive Part where
  /-- To the root of all folders. -/
  | root
  /-- To the folder where one is. -/
  | here
  /-- To the folder above. -/
  | above
  /-- To what has a name. -/
  | name (text : List Char)
  deriving Repr, DecidableEq

/-- The texts between slashes. -/
def pieces (path : List Char) : List (List Char) := Text.pieces (· == '/') path

/-- The step that a piece stands for, if it stands for one. -/
def partOf? (isFirst : Bool) (piece : List Char) : Option Part :=
  match piece with
  | [] => none
  | ['.'] => if isFirst then some .here else none
  | ['.', '.'] => some .above
  | text => some (.name text)

/-- The steps of a path. -/
def parts (path : List Char) : List Part :=
  match path with
  | '/' :: rest => .root :: (pieces rest).filterMap (partOf? false)
  | _ =>
    match pieces path with
    | first :: others => (partOf? true first).toList ++ others.filterMap (partOf? false)
    | [] => []

/-- Whether a path starts at the root. -/
def isAbsolute (path : List Char) : Bool := path.head? == some '/'

/-! ### The last name -/

/-- The last name of a path, if its last step goes to a name. -/
def lastName? (path : List Char) : Option (List Char) :=
  match (parts path).getLast? with
  | some (.name text) => some text
  | _ => none

/-- A file name cut at its last dot, which does not stand at its start. -/
def cutExtension? (name : List Char) : Option (List Char × List Char) :=
  let behind := name.reverse.takeWhile (· ≠ '.')
  let before := name.reverse.drop (behind.length + 1)
  if before.isEmpty || behind.length = name.length then none
  else some (before.reverse, behind.reverse)

/-- The extension of the last name. -/
def extension? (path : List Char) : Option (List Char) :=
  ((lastName? path).bind cutExtension?).map (·.2)

/-- The last name without its extension; empty if the last step goes to no name. -/
def stem (path : List Char) : List Char :=
  match lastName? path with
  | none => []
  | some name =>
    match cutExtension? name with
    | some (before, _) => before
    | none => name

/-! ### Paths from others -/

/-- A reversed path without the slashes and the dots between slashes that it starts with. -/
def dropIdle : List Char → List Char
  | [] => []
  | '/' :: rest => if rest.isEmpty then ['/'] else dropIdle rest
  | '.' :: '/' :: rest => dropIdle ('/' :: rest)
  | cs => cs

/-- The path of the folder that holds the last name; `none` if there is no last step to take back. -/
def parent? (path : List Char) : Option (List Char) :=
  match (parts path).getLast? with
  | none => none
  | some .root => none
  | some _ =>
    let reversed := dropIdle path.reverse
    some (dropIdle (reversed.dropWhile (· ≠ '/'))).reverse

/-- A path below another one; an absolute path stays as it is. -/
def join (folder path : List Char) : List Char :=
  if isAbsolute path || folder.isEmpty then path
  else if folder.getLast? == some '/' then folder ++ path
  else folder ++ '/' :: path

/-- The path with another last name. -/
def withName (path name : List Char) : List Char :=
  match lastName? path with
  | some _ => join ((parent? path).getD []) name
  | none => join path name

/-! ### Order -/

/-- The rank of a step among steps of other kinds. -/
def Part.rank : Part → Nat
  | .root => 0
  | .here => 1
  | .above => 2
  | .name _ => 3

/-- Whether a step comes before or with another one. -/
def Part.compare : Part → Part → Ordering
  | .name a, .name b => compareOfLessAndEq a b
  | p, q => Ord.compare p.rank q.rank

/-- The order of lists of steps: the first difference decides. -/
def compareParts : List Part → List Part → Ordering
  | [], [] => .eq
  | [], _ :: _ => .lt
  | _ :: _, [] => .gt
  | p :: ps, q :: qs => (p.compare q).then (compareParts ps qs)

/-- Whether a path comes before or with another one. -/
def pathLe (a b : String) : Bool := compareParts (parts a.toList) (parts b.toList) != .gt

end JsonWorkbench.Files
