import JsonWorkbench.Command.Arguments
import JsonWorkbench.Command.Basic
import JsonWorkbench.Transform.Selection

/-!
# Reading Commands

The command that the words of a command line stand for. Each command has one rule: its names, the
options that it admits, and how it is made of what was given. Words that fit no rule stand for no
command; why they do not is not kept.

## Main definitions

* `CommandRule`, `commandRules` — the rules.
* `Command.ofWords?` — the command of a list of words.
-/

namespace JsonWorkbench

open Arguments

/-! ### Values -/

/-- A file name, which is not empty. -/
def fileName? (text : String) : Option String := if text.isEmpty then none else some text

/-- The value of an option as something else; a value that cannot be read is a refusal. -/
def readValue? (args : List Argument) (name : String) (read? : String → Option α) :
    Option (Option α) :=
  match valueOf? args name with
  | none => some none
  | some text => (read? text).map some

/-- The value of an option, or another one if it is not given. -/
def textOr (args : List Argument) (name default : String) : String :=
  (valueOf? args name).getD default

/-- The value with a name in a list. -/
def namedIn? (names : List (String × α)) (text : String) : Option α :=
  (names.find? (·.1 == text)).map (·.2)

/-- The one character of a text. -/
def onlyChar? (text : String) : Option Char :=
  match text.toList with
  | [c] => some c
  | _ => none

/-- The one operand, if there is any. -/
def onlyOperand? : List String → Option (Option String)
  | [] => some none
  | [text] => (fileName? text).map some
  | _ => none

/-- The route of a command, with operands for the source. -/
def routeOf? (args : List Argument) (operands : List String) : Option Route := do
  let source ← onlyOperand? operands
  let target ← readValue? args "output" fileName?
  return { source, target }

/-! ### Rules -/

/-- The options that every command admits. -/
def sharedRules : List OptionRule := [.flag "verbose" (some 'v'), .flag "no-color"]

/-- The option for the file of the result. -/
def outputRule : OptionRule := { name := "output", letter := some 'o' }

/-- The rule of a command. -/
structure CommandRule where
  /-- The names of the command. -/
  names : List String
  /-- The options that it admits besides the shared ones. -/
  options : List OptionRule
  /-- The command of what was given. -/
  make? : List Argument → Option Command

/-- The rule of a command that has a route. -/
def routeRule (names : List String) (options : List OptionRule)
    (make? : List Argument → Route → Option Command) : CommandRule where
  names := names
  options := outputRule :: options
  make? args := do make? args (← routeOf? args (operands args))

/-- Checking a document. -/
def validateRule : CommandRule where
  names := ["validate", "v"]
  options := [{ name := "schema", letter := some 's' }]
  make? args := do
    let source ← onlyOperand? (operands args)
    let schema ← readValue? args "schema" fileName?
    return .validate source schema

/-- Checking a document against a schema that has to be given. -/
def validateAgainstRule : CommandRule where
  names := ["validate"]
  options := validateRule.options
  make? args := if hasFlag args "schema" then validateRule.make? args else none

/-- The style of what was given; the two ways to order keys exclude each other. -/
def styleOf? (args : List Argument) : Option FormatStyle := do
  let width ← readValue? args "indent" fun text => readIndex? text.toList
  let order := (valueOf? args "key-order").map splitList
  let isSorted := hasFlag args "sort-keys"
  guard !(isSorted && order.isSome)
  return { indent := if hasFlag args "tabs" then .tab else .spaces (width.getD 2)
           keyOrder := if isSorted then some [] else order
           trailingCommas := hasFlag args "trailing-commas" }

/-- Laying out. -/
def formatRule : CommandRule :=
  routeRule ["format", "f"]
    [{ name := "indent", letter := some 'i' }, .flag "tabs", .flag "sort-keys",
      { name := "key-order" }, .flag "trailing-commas"]
    fun args route => (styleOf? args).map (.format route)

/-- Selecting. -/
def queryRule : CommandRule :=
  routeRule ["query", "q"] [{ name := "path", letter := some 'p' }, .flag "simple"]
    fun args route =>
      (valueOf? args "path").map fun path => .query route path (hasFlag args "simple")

/-- Listing keys. -/
def keysRule : CommandRule :=
  routeRule ["keys", "k"] [{ name := "depth" }] fun args route => do
    let depth ← readValue? args "depth" fun text => readIndex? text.toList
    return .keys route (depth.getD 1)

/-- The styles of differences by name. -/
def diffStyles : List (String × DiffStyle) := [("text", .text), ("json", .json), ("patch", .patch)]

/-- Comparing. -/
def diffRule : CommandRule where
  names := ["diff", "d"]
  options := [{ name := "format" }, { name := "ignore" }]
  make? args :=
    match operands args with
    | [left, right] => do
      let left ← fileName? left
      let right ← fileName? right
      let style ← readValue? args "format" (namedIn? diffStyles)
      return .diff left right (style.getD .text) (((valueOf? args "ignore").map splitList).getD [])
    | _ => none

/-- Counting. -/
def statsRule : CommandRule :=
  routeRule ["stats", "s"] [.flag "json"] fun args route =>
    some (.stats route (hasFlag args "json"))

/-- The merge strategies by name. -/
def mergeStrategies : List (String × MergeStrategy) :=
  [("overwrite", .overwrite), ("concat-arrays", .concatArrays)]

/-- Uniting. Files are given in runs of two or more. -/
def mergeRule : CommandRule where
  names := ["merge"]
  options := [outputRule, { name := "strategy" }]
  make? args := do
    let runs := (operandRuns args).filter (!·.isEmpty)
    let files ← runs.flatten.mapM fileName?
    let strategy ← readValue? args "strategy" (namedIn? mergeStrategies)
    let target ← readValue? args "output" fileName?
    guard (!files.isEmpty && runs.all (2 ≤ ·.length))
    return .merge files (strategy.getD .overwrite) target

/-- Making one level. -/
def flattenRule : CommandRule :=
  routeRule ["flatten"] [{ name := "separator" }] fun args route =>
    some (.flatten route (textOr args "separator" "."))

/-- Making levels. -/
def unflattenRule : CommandRule :=
  routeRule ["unflatten"] [{ name := "separator" }] fun args route =>
    some (.unflatten route (textOr args "separator" "."))

/-- What was given to sort by. -/
def sortKeyOf (args : List Argument) : SortKey :=
  match valueOf? args "by" with
  | none => .keys
  | some field =>
    .field field { descending := hasFlag args "desc", numeric := hasFlag args "numeric" }

/-- Putting in order. -/
def sortRule : CommandRule :=
  routeRule ["sort"]
    [{ name := "path", letter := some 'p' }, { name := "by" }, .flag "desc", .flag "numeric"]
    fun args route => some (.sort route (valueOf? args "path") (sortKeyOf args))

/-- Keeping items. -/
def filterRule : CommandRule :=
  routeRule ["filter"]
    [{ name := "where" }, { name := "path", letter := some 'p' }, { name := "select" }]
    fun args route => (valueOf? args "where").map fun condition =>
      .filter route condition (valueOf? args "path") ((valueOf? args "select").map splitList)

/-- Converting. -/
def convertRule : CommandRule :=
  routeRule ["convert"]
    [{ name := "from" }, { name := "to" }, { name := "root-name" }, { name := "delimiter" },
      .flag "no-headers"]
    fun args route => do
      let source ← readValue? args "from" Format.ofName?
      let target ← readValue? args "to" Format.ofName?
      let separator ← readValue? args "delimiter" onlyChar?
      return .convert route source target
        { rootName := textOr args "root-name" "root"
          table := { separator := separator.getD ',', headers := !hasFlag args "no-headers" } }

/-- Describing by a schema. -/
def describeRule : CommandRule :=
  routeRule ["generate"] [{ name := "title" }] fun args route =>
    some (.describe route (textOr args "title" "Generated Schema"))

/-- What types can be written in, by name; without a language it is a schema. -/
def declarationTargets : List (String × Option Language) :=
  [("typescript", some .typeScript), ("ts", some .typeScript), ("types", some .typeScript),
    ("go", some .go), ("python", some .python), ("py", some .python), ("rust", some .rust),
    ("rs", some .rust), ("schema", none)]

/-- Declaring types. -/
def declareRule : CommandRule where
  names := ["generate"]
  options := [outputRule, { name := "root-name" }, { name := "package" }, .flag "no-export"]
  make? args :=
    match operands args with
    | [] => none
    | target :: files => do
      let language ← namedIn? declarationTargets target
      let route ← routeOf? args files
      let rootName := textOr args "root-name" "Root"
      return match language with
        | none => .describe route rootName
        | some l =>
          .declare route l
            { rootName, isExported := !hasFlag args "no-export",
              package := textOr args "package" "main" }

/-- The tasks by name. -/
def taskNames : List (String × TaskName) :=
  [("validate", .validate), ("format", .format), ("minify", .minify), ("convert", .convert)]

/-- Doing a task for many files. -/
def batchRule : CommandRule where
  names := ["batch"]
  options := [{ name := "ignore" }, outputRule, { name := "schema" }, { name := "to" }]
  make? args :=
    match operands args with
    | [name, pattern] => do
      let task ← namedIn? taskNames name
      let folder ← readValue? args "output" fileName?
      let schema ← readValue? args "schema" fileName?
      let target ← readValue? args "to" Format.ofName?
      return .batch
        { task, pattern, folder, schema, target,
          ignore := ((valueOf? args "ignore").map splitList).getD [] }
    | _ => none

/-- The rules of all commands that have one word for a name. -/
def commandRules : List CommandRule :=
  [validateRule, formatRule,
    routeRule ["minify", "m"] [] fun _ route => some (.minify route),
    queryRule, keysRule,
    routeRule ["type", "t"] [] fun _ route => some (.type route),
    diffRule, statsRule, mergeRule, flattenRule, unflattenRule, sortRule, filterRule, convertRule,
    declareRule, batchRule]

/-- The rules of the commands about schemas. -/
def schemaRules : List CommandRule := [describeRule, validateAgainstRule]

/-! ### Words -/

/-- The command that words stand for, the first of them being its name. -/
def ofRules? (rules : List CommandRule) : List String → Option Command
  | [] => none
  | name :: words =>
    (rules.find? (·.names.contains name)).bind fun rule =>
      (scan? (sharedRules ++ rule.options) words).bind rule.make?

/-- The command that the words of a command line stand for. -/
def Command.ofWords? (words : List String) : Option Command :=
  (cutCommand? sharedRules words).bind fun
    | "schema" :: more => (cutCommand? sharedRules more).bind (ofRules? schemaRules)
    | named => ofRules? commandRules named

end JsonWorkbench
