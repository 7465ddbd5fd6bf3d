import JsonWorkbench.Decimal.Layout
import JsonWorkbench.Error
import JsonWorkbench.Text.Quoted

/-!
# The Wording of Errors

One function for the text of each kind of error. Nothing else in the library words an error.

## Main definitions

* `Error.message` — the text of an error.
-/

namespace JsonWorkbench

/-- What is wrong with a path, in words. -/
def PathFault.text : PathFault → String
  | .descendantWithoutName => "'..' 뒤에 키 이름이 필요합니다"
  | .keyWithoutName => "'.' 뒤에 키 이름이 필요합니다"
  | .openFilter => "필터 식이 ')]'로 닫히지 않았습니다"
  | .openQuote => "따옴표로 감싼 키가 닫히지 않았습니다"
  | .noBracketBehindQuote => "따옴표 키 뒤에 ']'가 필요합니다"
  | .openBracket => "대괄호가 닫히지 않았습니다"
  | .badIndex text => s!"잘못된 인덱스 '{text}'"
  | .badBound text => s!"잘못된 슬라이스 경계 '{text}'"
  | .notLiteral segment => s!"쓰기 경로에는 키와 인덱스만 사용할 수 있습니다 ({segment})"
  | .notSimple => "재귀 탐색, 필터, 슬라이스는 단순 쿼리에서 지원하지 않습니다"

/-- The sentence about a path that is of no use. -/
def invalidPathText (path : String) (fault : PathFault) : String :=
  s!"유효하지 않은 경로 '{path}': {fault.text}"

/-- What is wrong with a condition, in words. -/
def ConditionFault.text : ConditionFault → String
  | .field path fault => invalidPathText path fault
  | .pattern => "regex parse error:"

/-- What does not fit, in words. -/
def Mismatch.text : Mismatch → String
  | .onTheWay path found => s!"{path} 경로의 중간 값이 {found.name}: 객체 또는 배열 필요"
  | .atTheEnd path found => s!"{path} 경로의 부모 값이 {found.name}: 객체 또는 배열 필요"
  | .flatInput => "unflatten 입력: 평탄화된 객체 필요"
  | .tooFewInputs count => s!"병합 입력 {count}개: 두 개 이상의 객체 필요"
  | .mergeInput number found => s!"병합 입력 #{number}이(가) {found.name}: 객체 필요"
  | .sortTarget location => s!"정렬 대상 {location}: 배열 필요"
  | .filterTarget => "필터 대상: 배열 필요"
  | .tableInput => "CSV 변환 대상: 객체 배열 필요"
  | .tableRow number => s!"CSV 변환 대상 #{number}: 객체 필요"
  | .documentRoot => "TOML 문서 루트: 객체 필요"

/-- Why a file cannot be used, in words. -/
def FileFault.text : FileFault → String
  | .notFound => "No such file or directory (os error 2)"
  | .isDirectory => "Is a directory (os error 21)"
  | .notDirectory => "Not a directory (os error 20)"
  | .exists => "File exists (os error 17)"
  | .nameTooLong => "File name too long (os error 36)"
  | .system number text => s!"{text} (os error {number})"
  | .notUtf8 => "stream did not contain valid UTF-8"
  | .notUtf8At index (some wrong) =>
    s!"UTF-8이 아닙니다: invalid utf-8 sequence of {wrong} bytes from index {index}"
  | .notUtf8At index none => s!"UTF-8이 아닙니다: incomplete utf-8 byte sequence from index {index}"

/-- What is wrong with an element document, in words. -/
def XmlFault.text : XmlFault → String
  | .textOutsideRoot => "루트 요소 밖에 텍스트가 있습니다"
  | .noRoot => "루트 요소가 없습니다"
  | .notTerminated terminator => s!"'{terminator}'를 찾을 수 없습니다"
  | .noName => "요소 이름이 필요합니다"
  | .openStartTag => "여는 태그가 '>'로 닫히지 않았습니다"
  | .noEndTag name => s!"</{name}> 닫는 태그가 없습니다"
  | .wrongEndTag opened closed => s!"태그가 맞지 않습니다: <{opened}> 다음에 </{closed}>"
  | .openEndTag => "닫는 태그가 '>'로 끝나지 않습니다"

/-- Why a document cannot be read, in words. -/
def DecodeFault.text : DecodeFault → String
  | .xml line column fault => s!"XML 디코딩 실패 ({line}행): {column}열: {fault.text}"
  | .malformed format (some line) => s!"{format.name} 디코딩 실패 ({line}행): "
  | .malformed format none => s!"{format.name} 디코딩 실패: "

/-- A part of a schema document, in words. -/
def Schema.Found.text : Schema.Found → String
  | .null => "null"
  | .bool b => s!"boolean \x60{b}\x60"
  | .integer n => s!"integer \x60{n}\x60"
  | .double x => s!"floating point \x60{Decimal.Layout.json.render x}\x60"
  | .string s => s!"string {Text.quoted s}"
  | .sequence => "sequence"
  | .map => "map"

/-- What a place in a schema admits, in words. -/
def Schema.Expected.text : Schema.Expected → String
  | .schema => "struct Schema"
  | .string => "a string"
  | .sequence => "a sequence"
  | .map => "a map"
  | .count => "usize"
  | .number => "f64"

/-- Why a text is no schema, in words. -/
def Schema.LoadCause.text : Schema.LoadCause → String
  | .json c => c.text
  | .invalidType found expected => s!"invalid type: {found.text}, expected {expected.text}"
  | .invalidValue found expected => s!"invalid value: {found.text}, expected {expected.text}"
  | .duplicateField name => s!"duplicate field \x60{name}\x60"
  | .noVariant => "data did not match any variant of untagged enum TypeSpec"

/-- Why a text is no schema, with the place. -/
def Schema.LoadError.message (e : Schema.LoadError) : String :=
  s!"{e.cause.text} at line {e.line} column {e.column}"

/-- The text of an error. -/
def Error.message : Error → String
  | .parse e => s!"JSON 파싱 실패 ({e.line}행 {e.column}열): {e.message}"
  | .invalidPath path fault => invalidPathText path fault
  | .pathNotFound path => s!"경로를 찾을 수 없습니다: {path}"
  | .invalidCondition condition fault => s!"유효하지 않은 조건식 '{condition}': {fault.text}"
  | .unsupportedFormat name => s!"지원하지 않는 포맷입니다: {name}"
  | .mismatch m => m.text
  | .decode fault => fault.text
  | .integerTooGreat location n => s!"TOML 인코딩 실패: {location}: i64 범위를 넘는 정수 {n}"
  | .invalidSchema e => s!"유효하지 않은 스키마: {e.message}"
  | .fileOpen file fault => s!"파일을 열 수 없습니다 ({file}): {fault.text}"
  | .fileWrite file fault => s!"파일 쓰기 실패 ({file}): {fault.text}"
  | .invalidPattern pattern => s!"유효하지 않은 패턴: {pattern}"
  | .noFilesFound => "패턴과 일치하는 파일이 없습니다"

end JsonWorkbench
