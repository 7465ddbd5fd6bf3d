import JsonWorkbench.Text.Blank
import JsonWorkbench.Text.CaseMapping
import JsonWorkbench.Text.Letter
import JsonWorkbench.Text.Search

/-!
# Identifiers

Keys are any texts; the names of types and fields are words of letters and digits. A key becomes
a name by one of two conventions. Both can give one name to two keys.

## Main definitions

* `pascalCase` — words that start with capitals and stand together.
* `snakeCase` — lower-case words with underscores between them.
-/

namespace JsonWorkbench

/-! ### Words with capitals -/

/-- A word with its first letter in upper case. -/
def capitalized : List Char → List Char
  | [] => []
  | c :: cs => Text.upperForm c ++ cs

/-- The words of a text, capitalized and put together. -/
def capitalizedWords (cs : List Char) : List Char :=
  (Text.pieces (fun c => !Text.isAlphanumeric c) cs).flatMap capitalized

/-- The name of a type for a key: a key without words gives a fixed name, and a digit does not come
first. -/
def pascalCase (text : String) : String :=
  match capitalizedWords text.toList with
  | [] => "Type"
  | c :: cs => String.ofList (if c.isDigit then 'T' :: c :: cs else c :: cs)

/-! ### Words with underscores -/

/-- A text in lower case. A capital starts a word if a small letter or a digit stands before it; what
is no letter and no digit becomes an underscore, but not two in a row. -/
def underscored (smallBefore underscoreBefore : Bool) : List Char → List Char
  | [] => []
  | c :: cs =>
    if Text.isAlphanumeric c then
      let rest := Text.lowerForm c ++ underscored (Text.isLower c || c.isDigit) false cs
      if Text.isUpper c && smallBefore then '_' :: rest else rest
    else if underscoreBefore then underscored false true cs
    else '_' :: underscored false true cs

/-- The text without the underscores at its two ends. -/
def trimUnderscores (cs : List Char) : List Char :=
  Text.dropEndWhile (· == '_') (cs.dropWhile (· == '_'))

/-- The name of a field for a key; a key without words gives a fixed name. -/
def snakeCase (text : String) : String :=
  match trimUnderscores (underscored false false text.toList) with
  | [] => "field"
  | cs => String.ofList cs

end JsonWorkbench
