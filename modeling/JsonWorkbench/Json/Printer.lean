import JsonWorkbench.Decimal.Layout
import JsonWorkbench.Value.Basic

/-!
# Writing JSON

One writer serves both forms of a JSON text: what stands at a line break and behind a colon is a
parameter. In the compact form that is nothing, in the indented form a line feed with the
indentation of the level, and one blank. Containers without members are written in one piece in
both forms.

## Main definitions

* `Indent`, `Spacing` — the forms.
* `write` — the writer.
* `minify`, `stringify` — the compact and the indented text of a value.
-/

namespace JsonWorkbench.Json

/-- What one level of indentation is. -/
inductive Indent where
  /-- A number of blanks. -/
  | spaces (n : Nat)
  /-- A tab. -/
  | tab
  deriving Repr, DecidableEq

/-- The characters of one level of indentation. -/
def Indent.unit : Indent → List Char
  | .spaces n => List.replicate n ' '
  | .tab => ['\t']

/-- What stands between the tokens of a text. -/
structure Spacing where
  /-- What stands before a member of a container at a level, and before its closing bracket. -/
  lineBreak : Nat → List Char
  /-- What stands behind a colon. -/
  afterColon : List Char

/-- Nothing between tokens. -/
def Spacing.compact : Spacing := { lineBreak := fun _ => [], afterColon := [] }

/-- A line for every member. -/
def Spacing.indented (i : Indent) : Spacing :=
  { lineBreak := fun level => '\n' :: (List.replicate level i.unit).flatten, afterColon := [' '] }

/-- A hexadecimal digit, lower-case. -/
def hexDigit (n : Nat) : Char := Nat.digitChar n

/-- A character inside a string. -/
def escapeChar (c : Char) : List Char :=
  if c == '"' then ['\\', '"']
  else if c == '\\' then ['\\', '\\']
  else if c == '\x08' then ['\\', 'b']
  else if c == '\x0c' then ['\\', 'f']
  else if c == '\n' then ['\\', 'n']
  else if c == '\r' then ['\\', 'r']
  else if c == '\t' then ['\\', 't']
  else if c.toNat < 0x20 then
    ['\\', 'u', '0', '0', hexDigit (c.toNat / 16), hexDigit (c.toNat % 16)]
  else [c]

/-- A string with its quotes. -/
def writeString (s : String) : List Char :=
  '"' :: (s.toList.flatMap escapeChar ++ ['"'])

/-- A number. -/
def writeNumber : Number → List Char
  | .integer n => (toString n).toList
  | .double x => (Decimal.Layout.json.render x).toList

mutual

/-- A value that stands at a level of indentation. -/
def write (sp : Spacing) (level : Nat) : Value → List Char
  | .null => ['n', 'u', 'l', 'l']
  | .bool true => ['t', 'r', 'u', 'e']
  | .bool false => ['f', 'a', 'l', 's', 'e']
  | .number n => writeNumber n
  | .string s => writeString s
  | .array [] => ['[', ']']
  | .array (v :: vs) =>
    '[' :: (sp.lineBreak (level + 1) ++ (write sp (level + 1) v ++ writeItems sp (level + 1) vs)) ++
      (sp.lineBreak level ++ [']'])
  | .object [] => ['{', '}']
  | .object ((k, v) :: ms) =>
    '{' :: (sp.lineBreak (level + 1) ++ (writeString k ++ ':' :: (sp.afterColon ++
      (write sp (level + 1) v ++ writeMembers sp (level + 1) ms)))) ++
      (sp.lineBreak level ++ ['}'])

/-- Further items of an array, each with its comma. -/
def writeItems (sp : Spacing) (level : Nat) : List Value → List Char
  | [] => []
  | v :: vs => ',' :: (sp.lineBreak level ++ (write sp level v ++ writeItems sp level vs))

/-- Further members of an object, each with its comma. -/
def writeMembers (sp : Spacing) (level : Nat) : List (String × Value) → List Char
  | [] => []
  | (k, v) :: ms =>
    ',' :: (sp.lineBreak level ++ (writeString k ++ ':' :: (sp.afterColon ++
      (write sp level v ++ writeMembers sp level ms))))

end

/-- The compact text of a value. -/
def minify (v : Value) : String := String.ofList (write .compact 0 v)

/-- The indented text of a value. -/
def stringify (v : Value) (indent : Indent) : String :=
  String.ofList (write (.indented indent) 0 v)

end JsonWorkbench.Json
