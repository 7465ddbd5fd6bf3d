import JsonWorkbench.Files.Folder
import JsonWorkbench.Text.Utf8

/-!
# Access to Files

What the library asks of the place where files are. The rest of it is written for any such place,
so that one definition is run on a disk and reasoned about on a `Folder`.

## Main definitions

* `FileAccess` — the questions and commands; a `Folder` as a state answers them.
* `readText`, `writeText` — files as texts.
-/

namespace JsonWorkbench

/-- A place where files are. -/
class FileAccess (m : Type → Type) where
  /-- What a path leads to. -/
  kind? : String → m (Option FileKind)
  /-- The number of bytes of what a path leads to; 0 if it leads to nothing. -/
  size : String → m Nat
  /-- The names in a folder. -/
  entries : String → m (List String)
  /-- The bytes of a file. -/
  read : String → m (Except FileFault (List UInt8))
  /-- Write a file; folders on the way are created. -/
  write : String → List UInt8 → m (Option FileFault)

/-- A folder as a state. -/
abbrev FolderM := StateM Folder

instance : FileAccess FolderM where
  kind? path := fun f => ((f.stat path.toList).toOption, f)
  size path := fun f => (((f.read path.toList).toOption.getD []).length, f)
  entries path := fun f => ((f.entries path.toList).map String.ofList, f)
  read path := fun f => (f.read path.toList, f)
  write path bytes := fun f =>
    let (g, fault) := f.write path.toList bytes
    (fault, g)

variable {m : Type → Type} [Monad m] [FileAccess m]

/-- Whether a path leads to a folder. -/
def isFolder (path : String) : m Bool := do
  return (← FileAccess.kind? path) == some .folder

/-- Whether a path leads to anything. -/
def isPresent (path : String) : m Bool := do
  return (← FileAccess.kind? path).isSome

/-- Whether a path leads to a file. -/
def isFile (path : String) : m Bool := do
  return (← FileAccess.kind? path) == some .file

/-- The size from which on files are not read in one piece. -/
def mappedSize : Nat := 10 * 1024 * 1024

/-- The text of bytes. Of a great file, the place where it is no text is reported. -/
def textOf (isGreat : Bool) (bytes : List UInt8) : Except FileFault String :=
  (Text.decode bytes).mapError fun e => if isGreat then .notUtf8At e.index e.wrong else .notUtf8

/-- The text of a file; `limit` is the size from which on it counts as great. -/
def readText (limit : Nat) (path : String) : m (Except Error String) := do
  match ← FileAccess.read path with
  | .error fault => return .error (.fileOpen path fault)
  | .ok bytes =>
    return (textOf (limit ≤ bytes.length) bytes).mapError (.fileOpen path)

/-- Write a text into a file. -/
def writeText (path content : String) : m (Except Error Unit) := do
  match ← FileAccess.write path (Text.encode content) with
  | some fault => return .error (.fileWrite path fault)
  | none => return .ok ()

end JsonWorkbench
