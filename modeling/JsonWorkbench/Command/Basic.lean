import JsonWorkbench.Batch
import JsonWorkbench.Convert
import JsonWorkbench.Declaration.Basic
import JsonWorkbench.Transform.Merge
import JsonWorkbench.Transform.Sorting

/-!
# Commands

What can be asked for on a command line, with every decision that the words on the line make. A
file that is not given, or whose name is a hyphen, is the input of the terminal; a result without
a file goes to its output.

## Main definitions

* `Route` — where a document comes from and where the result goes.
* `Command` — a request.
-/

namespace JsonWorkbench

/-- Where a document comes from and where the result goes. -/
structure Route where
  /-- The file of the document. -/
  source : Option String := none
  /-- The file of the result. -/
  target : Option String := none
  deriving Repr, DecidableEq

/-- How a document is laid out. -/
structure FormatStyle where
  /-- The indentation. -/
  indent : Json.Indent := .spaces 2
  /-- The keys that come first if the keys are sorted; `none` leaves all keys where they are. -/
  keyOrder : Option (List String) := none
  /-- Whether a comma stands before a closing bracket. -/
  trailingCommas : Bool := false
  deriving Repr, DecidableEq

/-- How differences are shown. -/
inductive DiffStyle where
  /-- As lines for people. -/
  | text
  /-- As a document that lists them. -/
  | json
  /-- As a patch document. -/
  | patch
  deriving Repr, DecidableEq

/-- What an array or an object is put in order by. -/
inductive SortKey where
  /-- The keys of objects, at all depths. -/
  | keys
  /-- A field of the items of an array. -/
  | field (name : String) (options : SortOptions)
  deriving Repr, DecidableEq

/-- The name of a task. -/
inductive TaskName where
  | validate
  | format
  | minify
  | convert
  deriving Repr, DecidableEq

/-- What a batch is to do. -/
structure BatchRequest where
  /-- The task. -/
  task : TaskName
  /-- The files. -/
  pattern : String
  /-- The fragments of the paths that are left out. -/
  ignore : List String := []
  /-- The folder for the results. -/
  folder : Option String := none
  /-- The file with the schema. -/
  schema : Option String := none
  /-- The format to convert to. -/
  target : Option Format := none
  deriving Repr, DecidableEq

/-- What is asked for. -/
inductive Command where
  /-- Say whether a document is well formed, and admitted by the schema of a file. -/
  | validate (source schema : Option String)
  /-- Lay a document out. -/
  | format (route : Route) (style : FormatStyle)
  /-- Take the blanks out of a document. -/
  | minify (route : Route)
  /-- Show what a path selects. -/
  | query (route : Route) (path : String) (isSimple : Bool)
  /-- List the keys down to a depth. -/
  | keys (route : Route) (depth : Nat)
  /-- Say what kind of value a document is. -/
  | type (route : Route)
  /-- Compare two files, differences at some paths aside. -/
  | diff (left right : String) (style : DiffStyle) (ignore : List String)
  /-- Count the values of a document. -/
  | stats (route : Route) (asDocument : Bool)
  /-- Unite files. -/
  | merge (files : List String) (strategy : MergeStrategy) (target : Option String)
  /-- Make one level of all levels. -/
  | flatten (route : Route) (separator : String)
  /-- Make levels of one level. -/
  | unflatten (route : Route) (separator : String)
  /-- Put what is at a path in order. -/
  | sort (route : Route) (path : Option String) (key : SortKey)
  /-- Keep the items at a path that meet a condition, or some fields of them. -/
  | filter (route : Route) (condition : String) (path : Option String)
      (fields : Option (List String))
  /-- Write a document in another format. -/
  | convert (route : Route) (source target : Option Format) (options : ConvertOptions)
  /-- Write a schema that admits a document. -/
  | describe (route : Route) (title : String)
  /-- Write the types of a document. -/
  | declare (route : Route) (language : Language) (options : DeclarationOptions)
  /-- Do a task for many files. -/
  | batch (request : BatchRequest)

end JsonWorkbench
