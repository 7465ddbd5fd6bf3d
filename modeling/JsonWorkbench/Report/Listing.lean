import JsonWorkbench.Batch
import JsonWorkbench.Diff.Basic
import JsonWorkbench.Report.Quantity
import JsonWorkbench.Text.Lines
import JsonWorkbench.Transform.Census

/-!
# Listings

Results as lines for people: the lines around an error, counts, differences, violations, and what
became of a batch.

## Main definitions

* `contextListing` — the lines around an error, with a mark below its column.
* `censusListing`, `differenceListing`, `violationListing` — one line for each thing found.
* `failureListing`, `tallyListing` — what became of a batch.
-/

namespace JsonWorkbench.Report

/-- A text with blanks before it up to a width. -/
def padLeft (width : Nat) (s : String) : String :=
  String.ofList (List.replicate (width - s.length) ' ') ++ s

/-- A text with blanks behind it up to a width. -/
def padRight (width : Nat) (s : String) : String :=
  s ++ String.ofList (List.replicate (width - s.length) ' ')

/-! ### Errors -/

/-- The lines around a line with a mark below a column, between two empty lines. The numbers are as
wide as the last of them. -/
def contextListing (text : String) (line column : Nat) : List String :=
  let shown := Text.contextLines text line 2
  let width := ((shown.getLast?.map fun l => (toString l.number).length).getD 1)
  let mark := padRight (width + 2 + (column - 1)) "" ++ " ^"
  let lines := shown.flatMap fun l =>
    s!"{padLeft width (toString l.number)} │ {l.content}" :: if l.isError then [mark] else []
  "" :: lines ++ [""]

/-! ### Findings -/

/-- The rows of a table of counts. -/
def censusRows (c : Census) : List (String × String) :=
  [("객체", countText c.objects), ("배열", countText c.arrays), ("문자열", countText c.strings),
    ("숫자", countText c.numbers), ("불리언", countText c.booleans), ("null", countText c.nulls),
    ("최대 깊이", toString c.maxDepth)] ++
  (c.size.map fun n => ("크기", sizeText n)).toList ++
  (c.minifiedSize.map fun n => ("압축 크기", sizeText n)).toList

/-- Counts, one a line. -/
def censusListing (c : Census) : List String :=
  " 📊 JSON 통계" :: (censusRows c).map fun (label, n) => s!"  {padRight 10 label} {n}"

/-- Differences, one a line. -/
def differenceListing (ds : List Difference) : List String :=
  s!"🔍 차이 {countText ds.length}개:" :: "" :: ds.map (·.line)

/-- Violations, one a line. -/
def violationListing (vs : List Violation) : List String :=
  s!"❌ 스키마 검증 실패 ({vs.length}개):" ::
    vs.map fun v => s!"  • {v.pathText}: {v.cause.text}"

/-! ### Batches -/

/-- The files that have failed, each with its reason below it. -/
def failureListing (results : List FileResult) : List String :=
  let lines := results.flatMap fun r =>
    match r.failure with
    | some f => [s!"  • {r.path}", s!"    {f.text}"]
    | none => []
  if lines.isEmpty then [] else "" :: "❌ 오류 발생 파일:" :: lines

/-- A line across a report. -/
def rule : String := String.ofList (List.replicate 50 '═')

/-- A tally under a title. -/
def tallyListing (title : String) (t : Tally) : List String :=
  let failed := if t.failed = 0 then "✅ 실패:         0" else s!"❌ 실패:         {countText t.failed}"
  let written := if t.written = 0 then [] else [s!"  📤 출력 용량:    {sizeText t.written}"]
  let rate := if t.total = 0 then [] else [s!"  📈 성공률:       {fixedPlaces 1 t.rate}%"]
  ["", rule, s!" 📊 {title}", rule, s!"  📁 전체 파일:    {countText t.total}",
    s!"  ✅ 성공:         {countText t.succeeded}", s!"  {failed}",
    s!"  📥 입력 용량:    {sizeText t.read}"] ++ written ++ rate ++ [rule]

end JsonWorkbench.Report
