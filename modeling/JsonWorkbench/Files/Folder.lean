import JsonWorkbench.Error
import JsonWorkbench.Files.Name

/-!
# Folders

A folder with all that is in it, as a value. A file is found by the names on the way to it, and
so is a folder; folders that hold something are there because of it, the empty ones are listed.
What lies outside cannot be seen: only the folders above are there, and nothing in them.

A path text is followed step by step, as a file system does: every step needs a folder to start
from, also one that stays or goes up.

## Main definitions

* `Folder`, `Folder.kind?` — the contents, and what is at some names.
* `Place`, `Folder.follow` — where a path text leads.
* `Folder.write` — the folder with a file written, and the folders on the way created.
-/

namespace JsonWorkbench

/-- What can be at a place. -/
inductive FileKind where
  | file
  | folder
  deriving Repr, DecidableEq

/-- The contents of a folder at all depths. -/
structure Folder where
  /-- The files by the names on the way to them, with their bytes. -/
  files : List (List (List Char) × List UInt8) := []
  /-- Folders that have been created. -/
  folders : List (List (List Char)) := []

/-- Where a path leads. -/
inductive Place where
  /-- To some names below the folder. -/
  | inside (names : List (List Char))
  /-- To a folder above, or to the root, or to names below one of those. -/
  | outside (names : List (List Char))
  deriving Repr, DecidableEq

namespace Folder

/-- The bytes of the file at some names. -/
def bytes? (f : Folder) (names : List (List Char)) : Option (List UInt8) := f.files.lookup names

/-- What is at some names. -/
def kindAt? (f : Folder) (names : List (List Char)) : Option FileKind :=
  if (f.bytes? names).isSome then some .file
  else if names.isEmpty || f.folders.contains names || f.files.any (names.isPrefixOf ·.1) then
    some .folder
  else none

/-- What is at a place. -/
def kind? (f : Folder) : Place → Option FileKind
  | .inside names => f.kindAt? names
  | .outside names => if names.isEmpty then some .folder else none

/-- The greatest number of bytes of a name. -/
def maxName : Nat := 255

/-- A step from a place that is a folder. -/
def step (p : Place) (piece : List Char) : Except FileFault Place :=
  if piece = ['.'] then .ok p
  else if piece = ['.', '.'] then
    match p with
    | .inside [] => .ok (.outside [])
    | .inside names => .ok (.inside names.dropLast)
    | .outside names => .ok (.outside names.dropLast)
  else if Text.byteLength piece > maxName then .error .nameTooLong
  else
    match p with
    | .inside names => .ok (.inside (names ++ [piece]))
    | .outside names => .ok (.outside (names ++ [piece]))

/-- The place behind some steps; every step starts from a folder. -/
def followFrom (f : Folder) : Place → List (List Char) → Except FileFault Place
  | p, [] => .ok p
  | p, piece :: rest =>
    match f.kind? p with
    | none => .error .notFound
    | some .file => .error .notDirectory
    | some .folder =>
      match step p piece with
      | .error e => .error e
      | .ok q => f.followFrom q rest

/-- The steps of a path text. -/
def stepsOf (path : List Char) : List (List Char) := (Files.pieces path).filter (!·.isEmpty)

/-- Where a path text starts. -/
def startOf (path : List Char) : Place :=
  if Files.isAbsolute path then .outside [] else .inside []

/-- Where a path text leads; what is there need not exist. -/
def follow (f : Folder) (path : List Char) : Except FileFault Place :=
  if path.isEmpty then .error .notFound else f.followFrom (startOf path) (stepsOf path)

/-- What a path text leads to; a slash at the end asks for a folder. -/
def stat (f : Folder) (path : List Char) : Except FileFault FileKind :=
  match f.follow path with
  | .error e => .error e
  | .ok p =>
    match f.kind? p with
    | none => .error .notFound
    | some .file => if path.getLast? == some '/' then .error .notDirectory else .ok .file
    | some .folder => .ok .folder

/-- Whether a path text leads to a folder. -/
def isFolder (f : Folder) (path : List Char) : Bool :=
  match f.stat path with
  | .ok .folder => true
  | _ => false

/-! ### Reading -/

/-- The bytes of the file that a path text leads to. -/
def read (f : Folder) (path : List Char) : Except FileFault (List UInt8) :=
  match f.stat path with
  | .error e => .error e
  | .ok .folder => .error .isDirectory
  | .ok .file =>
    match f.follow path with
    | .ok (.inside names) => .ok ((f.bytes? names).getD [])
    | _ => .error .notFound

/-- The first name below some names on the way to other ones. -/
def childName? (names below : List (List Char)) : Option (List Char) :=
  if names.isPrefixOf below then (below.drop names.length).head? else none

/-- The names in the folder at some names. -/
def namesAt (f : Folder) (names : List (List Char)) : List (List Char) :=
  ((f.files.map (·.1) ++ f.folders).filterMap (childName? names)).eraseDups

/-- The names in the folder that a path text leads to. -/
def entries (f : Folder) (path : List Char) : List (List Char) :=
  if f.isFolder path then
    match f.follow path with
    | .ok (.inside names) => f.namesAt names
    | _ => []
  else []

/-! ### Writing -/

/-- The bytes of files with those at some names replaced or added. -/
def putFile : List (List (List Char) × List UInt8) → List (List Char) → List UInt8 →
    List (List (List Char) × List UInt8)
  | [], names, bytes => [(names, bytes)]
  | (n, b) :: fs, names, bytes =>
    if n = names then (n, bytes) :: fs else (n, b) :: putFile fs names bytes

/-- The folder with a folder created at a path. -/
def createOne (f : Folder) (path : List Char) : Except FileFault Folder :=
  match f.follow path with
  | .error e => .error e
  | .ok p =>
    match p, f.kind? p with
    | _, some _ => .error .exists
    | .inside names, none => .ok { f with folders := f.folders ++ [names] }
    | .outside _, none => .error .notFound

/-- The result of creating a folder: that one is there already is as good. -/
def orThere (f : Folder) (path : List Char) : Except FileFault Folder → Except FileFault Folder
  | .ok g => .ok g
  | .error e => if f.isFolder path then .ok f else .error e

/-- The folder with a folder created at a path, and the folders above it as far as they are missing;
`fuel` is at least the length of the path. -/
def createAllFrom (f : Folder) : Nat → List Char → Except FileFault Folder
  | 0, _ => .ok f
  | fuel + 1, path =>
    if path.isEmpty then .ok f
    else
      match f.createOne path with
      | .error .notFound =>
        match Files.parent? path with
        | none => .error .notFound
        | some above =>
          match f.createAllFrom fuel above with
          | .error e => .error e
          | .ok g => g.orThere path (g.createOne path)
      | result => f.orThere path result

/-- The folder with a folder created at a path, and the folders above it. -/
def createAll (f : Folder) (path : List Char) : Except FileFault Folder :=
  f.createAllFrom (path.length + 1) path

/-- Whether a path text ends in a step to a name. -/
def endsInName (path : List Char) : Bool :=
  match (Files.pieces path).getLast? with
  | some piece => piece ≠ [] && piece ≠ ['.'] && piece ≠ ['.', '.']
  | none => false

/-- The folder with bytes in the file at a path; the folder that the file is in must be there. -/
def writeHere (f : Folder) (path : List Char) (bytes : List UInt8) : Except FileFault Folder :=
  match f.follow path with
  | .error e => .error e
  | .ok p =>
    if !endsInName path then .error .isDirectory
    else
      match p, f.kind? p with
      | _, some .folder => .error .isDirectory
      | .inside names, _ => .ok { f with files := putFile f.files names bytes }
      | .outside _, _ => .error .notFound

/-- The folder with bytes in the file at a path, and the fault if they could not be written. The
folders on the way are created before the file. -/
def write (f : Folder) (path : List Char) (bytes : List UInt8) : Folder × Option FileFault :=
  match f.createAll ((Files.parent? path).getD []) with
  | .error e => (f, some e)
  | .ok g =>
    match g.writeHere path bytes with
    | .error e => (g, some e)
    | .ok h => (h, none)

end Folder

end JsonWorkbench
