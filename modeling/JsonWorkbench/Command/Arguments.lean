/-!
# Arguments

The words of a command line as options and operands. An option is written with its long name
behind two hyphens or with its letter behind one, and its value stands in the same word or is the
next word; letters of options without values can share a hyphen. Two hyphens alone make operands
of all further words.

A word that starts with a hyphen is never taken for an operand or for the value of an option, save
the hyphen alone. No option is given twice.

## Main definitions

* `OptionRule` — an option that is admitted.
* `Argument`, `scan?` — the options and operands of a list of words.
* `cutCommand?` — the words before and from the first operand on.
* `hasFlag`, `valueOf?`, `operandRuns` — what was given.
-/

namespace JsonWorkbench.Arguments

/-- An option that is admitted. -/
structure OptionRule where
  /-- The long name. -/
  name : String
  /-- The letter. -/
  letter : Option Char := none
  /-- Whether the option has a value. -/
  hasValue : Bool := true
  deriving Repr, DecidableEq

/-- An option without a value. -/
def OptionRule.flag (name : String) (letter : Option Char := none) : OptionRule :=
  { name, letter, hasValue := false }

/-- Something given by words. -/
inductive Argument where
  /-- An option, with its value if it has one. -/
  | option (name : String) (value : Option String)
  /-- A word that stands for itself. -/
  | operand (text : String)
  deriving Repr, DecidableEq

/-- Whether a word starts with a hyphen and is not that hyphen alone. -/
def isHyphenated (word : String) : Bool :=
  match word.toList with
  | '-' :: _ :: _ => true
  | _ => false

/-- What a word gives: options, and the name of the last one if its value is the next word. -/
structure Given where
  /-- The options that are complete. -/
  options : List Argument
  /-- The option that waits for its value. -/
  waiting : Option String := none

/-- What a word with a long name gives; the hyphens are off. -/
def longGiven? (rules : List OptionRule) (body : List Char) : Option Given :=
  let name := String.ofList (body.takeWhile (· ≠ '='))
  match rules.find? (·.name == name), body.dropWhile (· ≠ '=') with
  | none, _ => none
  | some r, [] =>
    if r.hasValue then some { options := [], waiting := some name }
    else some { options := [.option name none] }
  | some r, _ :: value =>
    if r.hasValue then some { options := [.option name (some (String.ofList value))] } else none

/-- The value behind the letter of its option; a sign of equality may stand between. -/
def attachedValue : List Char → String
  | '=' :: value => String.ofList value
  | value => String.ofList value

/-- What a word with letters gives; the hyphen is off. -/
def lettersGiven? (rules : List OptionRule) : List Char → Option Given
  | [] => some { options := [] }
  | c :: cs =>
    match rules.find? (·.letter == some c) with
    | none => none
    | some r =>
      if r.hasValue then
        if cs.isEmpty then some { options := [], waiting := some r.name }
        else some { options := [.option r.name (some (attachedValue cs))] }
      else
        (lettersGiven? rules cs).map fun g => { g with options := .option r.name none :: g.options }

/-- What a word gives. -/
def given? (rules : List OptionRule) (word : String) : Option Given :=
  if isHyphenated word then
    match word.toList.drop 1 with
    | '-' :: body => longGiven? rules body
    | letters => lettersGiven? rules letters
  else some { options := [.operand word] }

/-- The arguments that words give, the first of them to the option that waits for a value. -/
def scanFrom? (rules : List OptionRule) : Option String → List String → Option (List Argument)
  | none, [] => some []
  | some _, [] => none
  | some name, w :: ws =>
    if isHyphenated w then none
    else (scanFrom? rules none ws).map (.option name (some w) :: ·)
  | none, w :: ws =>
    if w == "--" then some (ws.map .operand)
    else
      match given? rules w with
      | none => none
      | some g => (scanFrom? rules g.waiting ws).map (g.options ++ ·)

/-- The names of the options that are given. -/
def optionNames (args : List Argument) : List String :=
  args.filterMap fun
    | .option name _ => some name
    | .operand _ => none

/-- The arguments that words give, if all options are admitted and none is repeated. -/
def scan? (rules : List OptionRule) (words : List String) : Option (List Argument) :=
  (scanFrom? rules none words).filter fun args => decide (optionNames args).Nodup

/-- The words from the first operand on, if the words before it are options without values. -/
def cutCommand? (rules : List OptionRule) (words : List String) : Option (List String) :=
  let flags := words.takeWhile isHyphenated
  if flags.contains "--" then none
  else (scan? rules flags).map fun _ => words.dropWhile isHyphenated

/-! ### What was given -/

/-- Whether an option is given. -/
def hasFlag (args : List Argument) (name : String) : Bool := (optionNames args).contains name

/-- The value of an option, if it is given. -/
def valueOf? (args : List Argument) (name : String) : Option String :=
  args.findSome? fun
    | .option n value => if n == name then value else none
    | .operand _ => none

/-- The operands in runs, cut where options stand. -/
def operandRuns : List Argument → List (List String)
  | [] => []
  | .option _ _ :: args => [] :: operandRuns args
  | .operand w :: args =>
    match operandRuns args with
    | [] => [[w]]
    | run :: runs => (w :: run) :: runs

/-- The operands. -/
def operands (args : List Argument) : List String := (operandRuns args).flatten

end JsonWorkbench.Arguments
