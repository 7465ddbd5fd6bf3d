import JsonWorkbench.Convert
import JsonWorkbench.ErrorText
import JsonWorkbench.Files.Access
import JsonWorkbench.Schema.Validation

/-!
# Batches

One task for many files, one file after another. A file that fails does not stop the batch. Each
result goes to a place that is made from the name of the file alone, so that two files can have
one place; the later result then stands there.

## Main definitions

* `Task`, `BatchOptions` — what is done.
* `outputPath` — where the result for a file goes.
* `FileResult`, `processFile` — what became of a file.
* `Tally` — what became of all.
-/

namespace JsonWorkbench

/-- What is done with a file. -/
inductive Task where
  /-- It is checked, against a schema if there is one. -/
  | validate (schema : Option Schema)
  /-- It is indented. -/
  | format
  /-- Its blanks are taken out. -/
  | minify
  /-- It is written in a format. -/
  | convert (target : Format)

/-- The extension of the results of a task, with its dot. -/
def Task.extension : Task → String
  | .validate _ => ".json"
  | .format => ".json"
  | .minify => ".min.json"
  | .convert target => "." ++ target.extension

/-- The text that a task makes of a document, if it makes one. -/
def Task.result? (t : Task) (v : Value) : Except Error (Option String) :=
  match t with
  | .validate _ => .ok none
  | .format => .ok (some (Json.stringify v (.spaces 2)))
  | .minify => .ok (some (Json.minify v))
  | .convert target => (encode {} target v).map some

/-- How a batch is run. -/
structure BatchOptions where
  /-- The task. -/
  task : Task
  /-- The folder for the results; without one they go beside their files. -/
  outputFolder : Option String := none
  /-- The size from which on a file counts as great. -/
  mappedSize : Nat := JsonWorkbench.mappedSize

/-! ### One file -/

/-- Where the result for a file goes. Beside the file, a result with the extension of JSON or with that
of the file takes the place of the file. -/
def outputPath (input : String) (folder : Option String) (extension : String) : String :=
  let path := input.toList
  let name := Files.stem path ++ extension.toList
  match folder with
  | some f => String.ofList (Files.join f.toList name)
  | none =>
    let isSame := ((Files.extension? path).map ('.' :: ·)) == some extension.toList
    if extension == ".json" || isSame then input else String.ofList (Files.withName path name)

/-- Why a file has failed. -/
inductive FileFailure where
  /-- Something went wrong. -/
  | error (e : Error)
  /-- The document violates the schema; only the first violation is kept. -/
  | violation (v : Violation)

/-- Why a file has failed, in words. -/
def FileFailure.text : FileFailure → String
  | .error e => e.message
  | .violation v => v.pathText ++ ": " ++ v.cause.text

/-- What became of a file. -/
structure FileResult where
  /-- The file. -/
  path : String
  /-- Where its result is. -/
  output : Option String := none
  /-- Why it has failed. -/
  failure : Option FileFailure := none
  /-- Its size in bytes, before. -/
  size : Nat
  /-- The size of its result. -/
  written : Nat := 0

/-- Whether nothing has failed. -/
def FileResult.isSuccess (r : FileResult) : Bool := r.failure.isNone

/-- The first violation of a task that checks against a schema. -/
def Task.violation? (t : Task) (v : Value) : Option Violation :=
  match t with
  | .validate (some s) => (s.violations v).head?
  | _ => none

variable {m : Type → Type} [Monad m] [FileAccess m]

/-- The document in a file. -/
def readDocument (limit : Nat) (path : String) : m (Except Error Value) := do
  return (← readText limit path).bind fun text => (Json.parse text).mapError .parse

/-- Do the task for a file. -/
def processFile (o : BatchOptions) (path : String) : m FileResult := do
  let size ← FileAccess.size path
  let failed (f : FileFailure) : FileResult := { path, size, failure := some f }
  match ← readDocument o.mappedSize path with
  | .error e => return failed (.error e)
  | .ok v =>
    match o.task.violation? v, o.task.result? v with
    | some violation, _ => return failed (.violation violation)
    | none, .error e => return failed (.error e)
    | none, .ok none => return { path, size }
    | none, .ok (some content) =>
      let output := outputPath path o.outputFolder o.task.extension
      match ← writeText output content with
      | .error e => return failed (.error e)
      | .ok () => return { path, size, output := some output, written := content.utf8ByteSize }

/-- Do the task for files, one after another. -/
def processFiles (o : BatchOptions) (paths : List String) : m (List FileResult) :=
  paths.mapM (processFile o)

/-! ### All files -/

/-- What became of the files of a batch. -/
structure Tally where
  /-- The number of files. -/
  total : Nat
  /-- The number of those that have not failed. -/
  succeeded : Nat
  /-- The number of those that have failed. -/
  failed : Nat
  /-- The sizes of the files. -/
  read : Nat
  /-- The sizes of the results. -/
  written : Nat
  deriving Repr, DecidableEq

/-- The tally of results. -/
def tally (results : List FileResult) : Tally where
  total := results.length
  succeeded := results.countP (·.isSuccess)
  failed := results.countP (!·.isSuccess)
  read := (results.map (·.size)).foldl (· + ·) 0
  written := (results.map (·.written)).foldl (· + ·) 0

/-- The part of the files that have not failed, in percent. -/
def Tally.rate (t : Tally) : Float :=
  if t.total = 0 then 0.0
  else Decimal.ofInt t.succeeded / Decimal.ofInt t.total * 100.0

end JsonWorkbench
