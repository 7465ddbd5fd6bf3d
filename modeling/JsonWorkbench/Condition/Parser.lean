import JsonWorkbench.Condition.Basic
import JsonWorkbench.Path.Parser
import JsonWorkbench.Regex.Parser
import JsonWorkbench.Value.Numeral

/-!
# Reading Conditions

The text of a condition. A whole text of the form `field =~ /pattern/flags` is a match, whatever
the pattern holds; else the text is split at `&&`, each part at `||`, and each clause read as a
comparison, or as a field that has to count as true. A clause that is none of these never holds.

A field is a run of word characters, `$`, dots, brackets and hyphens, with an optional `@` at its
start. No character of an operator can be in it, so a field always is the longest such run.

## Main definitions

* `spanField` — a field at the start of a text.
* `parseClause`, `Condition.parse` — the condition of a text.
* `normalizeWords` — `AND` and `OR` as operators.
-/

namespace JsonWorkbench

namespace ConditionText

/-! ### Fields -/

/-- A character of words. -/
def isWordChar (c : Char) : Bool :=
  if c.toNat < 0x80 then c.isAlphanum || c == '_' else Regex.CharSet.word.contains c

/-- A character of fields. -/
def isFieldChar (c : Char) : Bool :=
  isWordChar c || c == '$' || c == '.' || c == '[' || c == ']' || c == '-'

/-- A field at the start of a text, and the rest. Only `@` may come before a dot. -/
def spanField (cs : List Char) : Option (List Char × List Char) :=
  match cs with
  | [] => none
  | c :: rest =>
    if c == '@' || (isFieldChar c && c != '.') then
      let (more, behind) := rest.span isFieldChar
      some (c :: more, behind)
    else none

/-- The name behind `@.` at the first place of a text where there is one: words joined by single
dots. -/
def embeddedName (isStart : Bool) : List Char → List Char
  | [] => []
  | c :: cs =>
    if isWordChar c || c == '$' then c :: embeddedName false cs
    else if c == '.' && !isStart then
      match cs with
      | d :: _ => if isWordChar d || d == '$' then c :: embeddedName true cs else []
      | [] => []
    else []

/-- The first field of a text that is written with `@.`. -/
def embeddedField : List Char → Option (List Char)
  | [] => none
  | '@' :: cs =>
    match cs with
    | '.' :: more =>
      match embeddedName true more with
      | [] => embeddedField cs
      | name => some name
    | _ => embeddedField cs
  | _ :: cs => embeddedField cs

/-- The place that a field stands for; the whole text is named in an error. -/
def readField (whole : String) (token : List Char) : Except Error Field :=
  let token :=
    match token with
    | '@' :: rest => rest
    | _ => token
  let token :=
    match token with
    | '.' :: rest => rest
    | _ => token
  if token.isEmpty then .ok []
  else
    let text := String.ofList token
    let wrap (f : PathFault) : Error := .invalidCondition (trimmed whole) (.field text f)
    PathText.parseSegments wrap (fun _ => .error (wrap .openFilter)) text

/-! ### Matches -/

/-- The parts of `field =~ /pattern/flags`: flags are letters, the pattern has no line feed and
reaches to the last slash. -/
def splitMatch (cs : List Char) : Option (List Char × List Char × List Char) :=
  match spanField cs with
  | none => none
  | some (field, rest) =>
    match Text.trimStart rest with
    | '=' :: '~' :: more =>
      match Text.trimStart more with
      | '/' :: body =>
        let (flags, before) := body.reverse.span (· != '/')
        match before with
        | [] => none
        | _ :: pattern =>
          if flags.all Char.isAlpha && !pattern.contains '\n' then
            some (field, pattern.reverse, flags.reverse)
          else none
      | _ => none
    | _ => none

/-- The modes of matching that flags stand for; all other letters change nothing. -/
def matchFlags (flags : List Char) : Regex.Flags :=
  { ignoreCase := flags.contains 'i', multiLine := flags.contains 'm',
    dotAll := flags.contains 's', verbose := flags.contains 'x' }

/-- The expression of a pattern. -/
def readPattern (whole : String) (pattern flags : List Char) : Except Error Regex :=
  match Regex.parse? (matchFlags flags) (String.ofList pattern) with
  | some r => .ok r
  | none => .error (.invalidCondition (trimmed whole) .pattern)

/-! ### Comparisons -/

/-- The operators at the start of a text, in the order in which they are tried, each with the text
behind it. -/
def operatorsAt (cs : List Char) : List (CompareOp × List Char) :=
  match cs with
  | '=' :: '=' :: rest => [(.eq, rest)]
  | '!' :: '=' :: rest => [(.ne, rest)]
  | '>' :: '=' :: rest => [(.ge, rest), (.gt, '=' :: rest)]
  | '<' :: '=' :: rest => [(.le, rest), (.lt, '=' :: rest)]
  | '>' :: rest => [(.gt, rest)]
  | '<' :: rest => [(.lt, rest)]
  | _ => []

/-- The parts of `field operator literal`: the literal is not empty and has no line feed. -/
def splitCompare (cs : List Char) : Option (List Char × CompareOp × List Char) :=
  match spanField cs with
  | none => none
  | some (field, rest) =>
    (operatorsAt (Text.trimStart rest)).findSome? fun (op, behind) =>
      let literal := Text.trimStart behind
      if literal.isEmpty || literal.contains '\n' then none else some (field, op, literal)

/-- The text between equal quotes at the two ends of a text of two characters or more. -/
def quoted? (cs : List Char) : Option (List Char) :=
  match cs with
  | q :: rest =>
    if (q == '\'' || q == '"') && rest.getLast? == some q then some rest.dropLast else none
  | [] => none

/-- The value of a literal: a word, a quoted text, a number, or the text itself. -/
def readLiteral (cs : List Char) : Value :=
  let text := String.ofList cs
  if text = "true" then .bool true
  else if text = "false" then .bool false
  else if text = "null" then .null
  else
    match quoted? cs with
    | some inner => .string (String.ofList inner)
    | none => (coerceNumber? text).getD (.string text)

/-! ### Clauses -/

/-- A clause that joins no others. -/
def readSimple (whole : String) (cs : List Char) : Except Error Clause :=
  match splitCompare cs with
  | some (field, op, literal) =>
    (readField whole field).map fun f => .compare f op (readLiteral (Text.trim literal))
  | none =>
    match embeddedField cs with
    | some name => (readField whole name).map .truthy
    | none =>
      match spanField cs with
      | some (field, []) => (readField whole field).map .truthy
      | _ => .ok .never

/-- A match clause, if the text has that form. -/
def readMatch? (whole : String) (cs : List Char) : Option (Except Error Clause) :=
  (splitMatch cs).map fun (field, pattern, flags) => do
    let f ← readField whole field
    let r ← readPattern whole pattern flags
    .ok (.pattern f r)

/-- A text without `&&`. -/
def readAny (whole : String) (text : List Char) : Except Error Clause :=
  let cs := Text.trim text
  match readMatch? whole cs with
  | some result => result
  | none =>
    if Text.hasText ['|', '|'] cs then
      ((Text.splitText ['|', '|'] cs).mapM fun part =>
        let piece := Text.trim part
        match readMatch? whole piece with
        | some result => result
        | none => readSimple whole piece).map .any
    else readSimple whole cs

/-- The clause of a text. -/
def readClause (whole : String) (text : List Char) : Except Error Clause :=
  let cs := Text.trim text
  match readMatch? whole cs with
  | some result => result
  | none =>
    if Text.hasText ['&', '&'] cs then
      ((Text.splitText ['&', '&'] cs).mapM (readAny whole)).map .all
    else readAny whole cs

/-! ### Words for operators -/

/-- What follows a word between blanks at the start of a text, if it stands there; case is
ignored. -/
def afterWord? (word : List Char) (cs : List Char) : Option (List Char) :=
  match cs with
  | [] => none
  | c :: _ =>
    if Text.isBlank c then
      let rest := Text.trimStart cs
      let behind := rest.drop word.length
      if (rest.take word.length).map Char.toUpper = word && behind.head?.any Text.isBlank then
        some (Text.trimStart behind)
      else none
    else none

/-- The text with a word between blanks replaced, with the number of characters to be skipped. -/
def replaceWordFrom (word by' : List Char) : Nat → List Char → List Char
  | _, [] => []
  | skip + 1, _ :: cs => replaceWordFrom word by' skip cs
  | 0, c :: cs =>
    match afterWord? word (c :: cs) with
    | some rest => by' ++ replaceWordFrom word by' (cs.length - rest.length) cs
    | none => c :: replaceWordFrom word by' 0 cs

end ConditionText

/-- The text with the words `AND` and `OR` between blanks written as operators. -/
def normalizeWords (expr : String) : String :=
  let conjoined := ConditionText.replaceWordFrom "AND".toList " && ".toList 0 expr.toList
  String.ofList (ConditionText.replaceWordFrom "OR".toList " || ".toList 0 conjoined)

/-- The condition of a text. -/
def Condition.parse (expr : String) : Except Error Condition :=
  (ConditionText.readClause expr expr.toList).map fun clause =>
    { source := trimmed expr, clause }

end JsonWorkbench
