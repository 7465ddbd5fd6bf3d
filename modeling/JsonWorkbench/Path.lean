import JsonWorkbench.Condition.Parser

/-!
# Paths in Documents

The paths whose filters are conditions: reading them, and their texts.

## Main definitions

* `Path` — the paths.
* `Path.parse`, `Path.text`, `Path.pointer` — their written forms.
-/

namespace JsonWorkbench

/-- A path in a document. -/
abbrev Path := Segments Condition

namespace Path

/-- The path of a text. -/
def parse (text : String) : Except Error Path :=
  PathText.parseSegments (.invalidPath text) Condition.parse text

/-- The text of a segment. -/
def segmentText (s : Segment Condition) : String :=
  String.ofList (JsonWorkbench.segmentText Condition.source s)

/-- The text of a path. -/
def text (path : Path) : String := segmentsText Condition.source path

/-- The JSON pointer of a path. -/
def pointer (path : Path) : String := segmentsPointer Condition.source path

/-- Whether all segments are literal. -/
def isLiteral (path : Path) : Bool := path.all Segment.isLiteral

/-- Whether some segment slices, filters or descends. -/
def isAdvanced (path : Path) : Bool := path.any Segment.isAdvanced

end Path

end JsonWorkbench
