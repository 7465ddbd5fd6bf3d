import JsonWorkbench.Command.Basic
import JsonWorkbench.Command.Failure
import JsonWorkbench.Command.Reader
import JsonWorkbench.Command.Terminal
import JsonWorkbench.Declaration.Printer
import JsonWorkbench.Diff.Patch
import JsonWorkbench.Files.Selection
import JsonWorkbench.Json.TrailingComma
import JsonWorkbench.Query
import JsonWorkbench.Report.Listing
import JsonWorkbench.Schema.Inference
import JsonWorkbench.Schema.Printer
import JsonWorkbench.Schema.Reader
import JsonWorkbench.Transform.Flatten
import JsonWorkbench.Transform.KeyOrder

/-!
# Running Commands

What a command does, on any terminal and any files. Most commands have one shape: a document is
read, a text is made of it, and the text is written; `makeText?` is the middle of these. A
command that fails keeps what it has printed before.

## Main definitions

* `readSource`, `readJson`, `writeResult` — documents in, texts out.
* `Command.run` — what a command does.
* `runWords` — the same from the words of a command line.
-/

namespace JsonWorkbench

variable {m : Type → Type} [Monad m] [FileAccess m] [Terminal m]

/-! ### In and out -/

/-- The result of an operation, or its failure. -/
def succeed (r : Except Error α) : ExceptT Failure m α := ExceptT.mk (pure (r.mapError .error))

/-- Write lines of a result. -/
def printLines (lines : List String) : ExceptT Failure m Unit := lines.forM Terminal.print

/-- The file that a source names; a hyphen names the input of the terminal, as no name does. -/
def fileOf? (source : Option String) : Option String :=
  source.filter fun path => Files.parts path.toList != Files.parts ['-']

/-- The text of a source. -/
def readSource (source : Option String) : ExceptT Failure m String := do
  match fileOf? source with
  | some path => succeed (← readText mappedSize path)
  | none => succeed ((textOf false (← Terminal.input)).mapError (.fileOpen "<stdin>"))

/-- The value of a text that comes from a source. The lines around an error are reported. -/
def parseSource (source : Option String) (text : String) : ExceptT Failure m Value := do
  match Json.parse text with
  | .ok v => return v
  | .error e =>
    (Report.contextListing text e.line e.column).forM Terminal.report
    throw (match source with
      | some file => .notJson file e
      | none => .error (.parse e))

/-- The document of a source. -/
def readJson (source : Option String) : ExceptT Failure m Value := do
  parseSource source (← readSource source)

/-- The schema of a file. -/
def readSchema (file : String) : ExceptT Failure m Schema := do
  match Schema.load (← readSource (some file)) with
  | .ok s => return s
  | .error e => throw (.notSchema file e)

/-- Write a text to the file of the result, or print it. -/
def writeResult (target : Option String) (content : String) : ExceptT Failure m Outcome := do
  match target with
  | none => Terminal.print content
  | some path =>
    succeed (← writeText path content)
    Terminal.print s!"✅ 저장 완료: {path} ({Report.sizeText content.utf8ByteSize})"
  return .success

/-- The indented text of a value. -/
def showValue (v : Value) : String := Json.stringify v (.spaces 2)

/-! ### From a document to a text -/

/-- The value at a path text, which has to be there. -/
def selectAt (path : String) (v : Value) : Except Error Value := do
  match ← queryText path v with
  | some found => return found
  | none => throw (.pathNotFound path)

/-- What a query shows: texts as they are, containers indented. -/
def showFound : Value → String
  | .string s => s
  | .array vs => showValue (.array vs)
  | .object ms => showValue (.object ms)
  | v => Json.minify v

/-- What a path text selects, by all paths or by simple ones. -/
def queryBy (isSimple : Bool) (path : String) (v : Value) : Except Error Value := do
  if isSimple then
    match ← querySimple (← Path.parse path) v with
    | some found => return found
    | none => throw (.pathNotFound path)
  else selectAt path v

/-- A document with the keys at a path in order. -/
def sortKeysAt (path : Option Path) (v : Value) : Except Error Value :=
  match path with
  | none => .ok (sortKeys [] v)
  | some p =>
    match (locate v p).bind fun found => replaceAt p v (sortKeys [] found) with
    | some sorted => .ok sorted
    | none => .error (.pathNotFound p.text)

/-- A document with what is at a path in order. -/
def sortBy (path : Option String) (key : SortKey) (v : Value) : Except Error Value := do
  let p ← match path with
    | some text => (Path.parse text).map some
    | none => .ok none
  match key with
  | .field name options => sortAt options p name v
  | .keys => sortKeysAt p v

/-- The items at a path that meet a condition, or some fields of them. -/
def filterBy (condition : String) (path : Option String) (fields : Option (List String))
    (v : Value) : Except Error Value := do
  let c ← Condition.parse (normalizeWords condition)
  let target ← match path with
    | some p => selectAt p v
    | none => .ok v
  match target with
  | .array items =>
    let kept := filterItems c items
    match fields with
    | some names => return .array (← selectFields names kept)
    | none => return .array kept
  | _ => throw (.mismatch .filterTarget)

/-- The text of a document in a style. -/
def FormatStyle.render (style : FormatStyle) (v : Value) : String :=
  let arranged := match style.keyOrder with
    | some order => sortKeys order v
    | none => v
  let text := Json.stringify arranged style.indent
  if style.trailingCommas then Json.addTrailingCommas text else text

/-! ### Commands -/

/-- Read a document, make a text of it, write the text. -/
def transformWith (route : Route) (f : Value → Except Error String) :
    ExceptT Failure m Outcome := do
  let v ← readJson route.source
  writeResult route.target (← succeed (f v))

/-- Say whether a document is well formed and admitted. -/
def runValidate (source schema : Option String) : ExceptT Failure m Outcome := do
  let v ← readJson source
  match schema with
  | none =>
    Terminal.print "✅ 유효한 JSON입니다"
    return .success
  | some file =>
    match (← readSchema file).violations v with
    | [] =>
      Terminal.print "✅ 유효한 JSON이며 스키마와 일치합니다"
      return .success
    | violations =>
      printLines (Report.violationListing violations)
      return .failure

/-- Take the blanks out of a document; the sizes are shown where the result goes to a file. -/
def runMinify (route : Route) : ExceptT Failure m Outcome := do
  let text ← readSource route.source
  let small := Json.minify (← parseSource route.source text)
  if route.target.isSome then
    let before := Report.sizeText text.utf8ByteSize
    Terminal.print s!"  📦 {before} → {Report.sizeText small.utf8ByteSize}"
  writeResult route.target small

/-- Show the differences of two files. -/
def runDiff (left right : String) (style : DiffStyle) (ignore : List String) :
    ExceptT Failure m Outcome := do
  let before ← readJson (some left)
  let after ← readJson (some right)
  let found := ignoring ignore (diff before after)
  if found.isEmpty then Terminal.print "✅ 차이가 없습니다"
  else
    match style with
    | .text => printLines (Report.differenceListing found)
    | .json => Terminal.print (showValue (.array (found.map (·.toValue))))
    | .patch => Terminal.print (showValue (patchValue (toPatch found)))
  return .success

/-- Count the values of a document. -/
def runStats (route : Route) (asDocument : Bool) : ExceptT Failure m Outcome := do
  let text ← readSource route.source
  let v ← parseSource route.source text
  let c := censusOfText text v
  writeResult route.target
    (if asDocument then showValue c.toValue else "\n".intercalate (Report.censusListing c))

/-- Unite files. -/
def runMerge (files : List String) (strategy : MergeStrategy) (target : Option String) :
    ExceptT Failure m Outcome := do
  let values ← files.mapM fun file => readJson (some file)
  writeResult target (showValue (← succeed (mergeAll strategy values)))

/-- Write a document in another format. Formats that are not given are told from file names. -/
def runConvert (route : Route) (source target : Option Format) (o : ConvertOptions) :
    ExceptT Failure m Outcome := do
  if 128 ≤ o.table.separator.toNat then throw (.wideSeparator o.table.separator)
  let source := (source.or (route.source.bind Format.ofFileName?)).getD .json
  match target.or (route.target.bind Format.ofFileName?) with
  | none => throw .noTargetFormat
  | some target =>
    let text ← readSource route.source
    let v ← match source with
      | .json => parseSource route.source text
      | other => succeed (decode o other text)
    writeResult route.target (← succeed (encode o target v))

/-- The title of the report on a task. -/
def TaskName.title : TaskName → String
  | .validate => "유효성 검사 결과"
  | _ => "처리 통계"

/-- The task that a request names, once the schema is known; a conversion needs its format. -/
def BatchRequest.taskFor? (r : BatchRequest) : Option (Option Schema → Task) :=
  match r.task with
  | .validate => some .validate
  | .format => some fun _ => .format
  | .minify => some fun _ => .minify
  | .convert => r.target.map fun target _ => .convert target

/-- Do a task for files, and report on it. -/
def runTask (r : BatchRequest) (task : Task) (files : List String) :
    ExceptT Failure m Outcome := do
  Terminal.print s!"  📋 발견된 파일 수: {Report.countText files.length}"
  let results ← processFiles { task, outputFolder := r.folder } files
  printLines (Report.failureListing results)
  let t := tally results
  printLines (Report.tallyListing r.task.title t)
  return if t.failed = 0 then .success else .failure

/-- Do a task for many files. -/
def runBatch (r : BatchRequest) : ExceptT Failure m Outcome := do
  match r.taskFor? with
  | none => throw .noBatchFormat
  | some taskFor =>
    let schema ← r.schema.mapM readSchema
    match ← Files.selectFiles r.ignore r.pattern with
    | .ok files => runTask r (taskFor schema) files
    | .error .noFilesFound =>
      Terminal.print "⚠️ 패턴과 일치하는 파일이 없습니다."
      return .success
    | .error e => throw (.error e)

/-- What a command does. -/
def Command.run : Command → ExceptT Failure m Outcome
  | .validate source schema => runValidate source schema
  | .format route style => transformWith route fun v => .ok (style.render v)
  | .minify route => runMinify route
  | .query route path isSimple =>
    transformWith route fun v => (queryBy isSimple path v).map showFound
  | .keys route depth => transformWith route fun v => .ok ("\n".intercalate (listKeys depth v))
  | .type route => transformWith route fun v => .ok v.describe
  | .diff left right style ignore => runDiff left right style ignore
  | .stats route asDocument => runStats route asDocument
  | .merge files strategy target => runMerge files strategy target
  | .flatten route separator =>
    transformWith route fun v => .ok (showValue (JsonWorkbench.flatten separator v))
  | .unflatten route separator =>
    transformWith route fun v => (JsonWorkbench.unflatten separator v).map showValue
  | .sort route path key => transformWith route fun v => (sortBy path key v).map showValue
  | .filter route condition path fields =>
    transformWith route fun v => (filterBy condition path fields v).map showValue
  | .convert route source target o => runConvert route source target o
  | .describe route title =>
    transformWith route fun v => .ok (showValue (Schema.describing v title).toValue)
  | .declare route language o => transformWith route fun v => .ok (generateTypes language o v)
  | .batch request => runBatch request

/-- What the words of a command line do. -/
def runWords (words : List String) : m Outcome := do
  match Command.ofWords? words with
  | none =>
    Terminal.report "❌ 명령을 이해할 수 없습니다"
    return .misuse
  | some command =>
    match ← command.run.run with
    | .ok outcome => return outcome
    | .error f =>
      Terminal.report s!"❌ {f.text}"
      return .failure

end JsonWorkbench
