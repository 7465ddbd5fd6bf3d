import JsonWorkbench.Json.Printer
import JsonWorkbench.Path.Basic
import JsonWorkbench.Schema.Basic
import JsonWorkbench.Schema.TextFormat

/-!
# Validation

What a document violates of a schema, in the order of the walk. A value of the wrong type is one
violation, and nothing else is looked at there or below; its siblings are looked at all the same.
The branches of a choice are tried for their verdict only.

The walk is by recursion on the schema: the items of an array all meet the same schema.

## Main definitions

* `Violation`, `Violation.Cause` — the violations and what they mean.
* `Schema.violations` — the violations of a value.
* `Schema.Admits` — the values without a violation.
-/

namespace JsonWorkbench

/-- What a value violates. -/
inductive Violation.Cause where
  /-- The type is not one of those that are asked for. -/
  | wrongType (wanted : TypeSpec) (actual : TypeName)
  /-- No branch of a choice is satisfied. -/
  | noBranch
  /-- There is nothing under a required key. -/
  | missing
  | tooFewItems (least : Nat)
  | tooManyItems (greatest : Nat)
  | tooShort (least : Nat)
  | tooLong (greatest : Nat)
  /-- A text does not match a regular expression. -/
  | unmatched (pattern : String)
  /-- A regular expression of the schema is not well formed. -/
  | brokenPattern (pattern : String)
  /-- A text has not the format with this name. -/
  | wrongFormat (name : String)
  | tooSmall (least : Float)
  | tooGreat (greatest : Float)
  /-- The value is not among the admitted ones. -/
  | noChoice (choices : List Value)

/-- Something that a value violates, and where. -/
structure Violation where
  /-- The place, by keys and indices. -/
  path : Segments Empty
  /-- What is violated. -/
  cause : Violation.Cause

/-- What is violated, in words. -/
def Violation.Cause.text : Violation.Cause → String
  | .wrongType wanted actual => s!"타입 불일치: {wanted.names} 필요, 실제 {actual.name}"
  | .noBranch => "anyOf의 어떤 스키마와도 일치하지 않습니다"
  | .missing => "필수 속성이 없습니다"
  | .tooFewItems least => s!"배열 항목이 최소 {least}개 필요합니다"
  | .tooManyItems greatest => s!"배열 항목은 최대 {greatest}개까지 허용됩니다"
  | .tooShort least => s!"문자열은 최소 {least}자 이상이어야 합니다"
  | .tooLong greatest => s!"문자열은 최대 {greatest}자까지 허용됩니다"
  | .unmatched pattern => s!"문자열이 패턴과 일치해야 합니다: {pattern}"
  | .brokenPattern pattern => s!"잘못된 pattern '{pattern}': regex parse error:"
  | .wrongFormat name => s!"유효한 {name} 형식이어야 합니다"
  | .tooSmall least => s!"{Decimal.Layout.message.render least} 이상이어야 합니다"
  | .tooGreat greatest => s!"{Decimal.Layout.message.render greatest} 이하여야 합니다"
  | .noChoice choices =>
    "다음 값 중 하나여야 합니다: " ++ ", ".intercalate (choices.map Json.minify)

/-- The text of the place of a violation. -/
def Violation.pathText (v : Violation) : String := segmentsText (fun e => nomatch e) v.path

/-- A violation, if there is one. -/
def violationIf (broken : Bool) (path : Segments Empty) (cause : Violation.Cause) :
    List Violation :=
  if broken then [{ path, cause }] else []

/-- The violation of an optional bound. -/
def violationOf (path : Segments Empty) (bound : Option α) (broken : α → Bool)
    (cause : α → Violation.Cause) : List Violation :=
  match bound with
  | some b => violationIf (broken b) path (cause b)
  | none => []

namespace Rules

/-- The violations of the rules for the number of items. -/
def countViolations (r : Rules) (path : Segments Empty) (count : Nat) : List Violation :=
  violationOf path r.minItems (count < ·) .tooFewItems ++
    violationOf path r.maxItems (· < count) .tooManyItems

/-- The violations of a regular expression. -/
def patternViolations (path : Segments Empty) (text pattern : String) : List Violation :=
  match Regex.parse? {} pattern with
  | some r => violationIf (!r.isMatch text) path (.unmatched pattern)
  | none => [{ path, cause := .brokenPattern pattern }]

/-- The violations of a format; one that is not known is not checked. -/
def formatViolations (path : Segments Empty) (text name : String) : List Violation :=
  match TextFormat.ofName? name with
  | some f => violationIf (!f.admits text) path (.wrongFormat name)
  | none => []

/-- The violations of the rules for texts. -/
def textViolations (r : Rules) (path : Segments Empty) (text : String) : List Violation :=
  violationOf path r.minLength (text.length < ·) .tooShort ++
    violationOf path r.maxLength (· < text.length) .tooLong ++
    (r.pattern.toList.flatMap (patternViolations path text)) ++
    (r.format.toList.flatMap (formatViolations path text))

/-- The violations of the rules for numbers. -/
def boundViolations (r : Rules) (path : Segments Empty) (x : Float) : List Violation :=
  violationOf path r.minimum (x < ·) .tooSmall ++ violationOf path r.maximum (· < x) .tooGreat

/-- The violations of the rule that lists the admitted values. -/
def choiceViolations (r : Rules) (path : Segments Empty) (v : Value) : List Violation :=
  violationOf path r.choices (fun vs => !vs.any (·.looseEq v)) .noChoice

/-- The required keys that an object lacks. -/
def missingViolations (r : Rules) (path : Segments Empty) (ms : Members) : List Violation :=
  (r.required.getD []).flatMap fun k => violationIf (!ms.has k) (path ++ [.key k]) .missing

/-- The type that is asked for, if the value has another one. -/
def wrongType? (r : Rules) (v : Value) : Option TypeSpec :=
  r.type.filter fun t => !t.accepts (TypeName.ofValue v)

end Rules

namespace Schema

mutual

/-- The violations of a value at a path. -/
def violationsAt (path : Segments Empty) (v : Value) : Schema → List Violation
  | ⟨r, properties, items, anyOf⟩ =>
    match r.wrongType? v with
    | some wanted => [{ path, cause := .wrongType wanted (TypeName.ofValue v) }]
    | none =>
      branchesViolations path v anyOf ++
        (match v with
          | .object ms => r.missingViolations path ms ++ propertiesViolations path ms properties
          | .array vs => itemsViolations path vs items ++ r.countViolations path vs.length
          | .string s => r.textViolations path s
          | .number n => r.boundViolations path n.toFloat
          | _ => []) ++
        r.choiceViolations path v
termination_by structural s => s

/-- The violation of a choice between branches. -/
def branchesViolations (path : Segments Empty) (v : Value) : Option (List Schema) → List Violation
  | none => []
  | some ss => violationIf (!satisfiesSome path v ss) path .noBranch
termination_by structural ss => ss

/-- Whether one of the branches is satisfied. -/
def satisfiesSome (path : Segments Empty) (v : Value) : List Schema → Bool
  | [] => false
  | s :: ss => (violationsAt path v s).isEmpty || satisfiesSome path v ss
termination_by structural ss => ss

/-- The violations of the members of an object. -/
def propertiesViolations (path : Segments Empty) (ms : Members) :
    Option (List (String × Schema)) → List Violation
  | none => []
  | some ps => memberViolations path ms ps
termination_by structural ps => ps

/-- The violations of the members of an object, property by property. -/
def memberViolations (path : Segments Empty) (ms : Members) :
    List (String × Schema) → List Violation
  | [] => []
  | (k, s) :: ps =>
    (match Members.get? ms k with
      | some v => violationsAt (path ++ [.key k]) v s
      | none => []) ++ memberViolations path ms ps
termination_by structural ps => ps

/-- The violations of the items of an array, in order. -/
def itemsViolations (path : Segments Empty) (vs : List Value) : Option Schema → List Violation
  | none => []
  | some s => vs.zipIdx.flatMap fun (v, i) => violationsAt (path ++ [.index i]) v s
termination_by structural s => s

end

/-- The violations of a document. -/
def violations (s : Schema) (v : Value) : List Violation := s.violationsAt [] v

/-- A value that violates nothing. -/
def Admits (s : Schema) (v : Value) : Prop := s.violations v = []

end Schema

end JsonWorkbench
