import JsonWorkbench.ErrorText

/-!
# Failures of Commands

Why a command comes to no result: an error of an operation, with what it was about where that is
worth saying, or a request that leaves something open.

## Main definitions

* `Failure`, `Failure.text` — the failures and their wording.
* `Outcome`, `Outcome.code` — how a command ends.
-/

namespace JsonWorkbench

/-- Why a command comes to no result. -/
inductive Failure where
  /-- An operation has failed. -/
  | error (e : Error)
  /-- A file holds no document. -/
  | notJson (file : String) (e : Json.ReadError)
  /-- A file holds no schema. -/
  | notSchema (file : String) (e : Schema.LoadError)
  /-- The separator of a table takes more than a byte. -/
  | wideSeparator (c : Char)
  /-- Nothing says which format to convert to. -/
  | noTargetFormat
  /-- Nothing says which format a batch is to convert to. -/
  | noBatchFormat

/-- A failure in words. -/
def Failure.text : Failure → String
  | .error e => e.message
  | .notJson file e => s!"{file}: 잘못된 JSON: {(Error.parse e).message}"
  | .notSchema file e => s!"스키마 파일: {file}: {(Error.invalidSchema e).message}"
  | .wideSeparator c =>
    s!"CSV 구분자는 ASCII 한 글자여야 합니다: '{String.ofList (Text.quotedChar c)}'"
  | .noTargetFormat => "--to 포맷 또는 확장자가 있는 -o 출력 파일이 필요합니다"
  | .noBatchFormat => "batch convert에는 --to 포맷이 필요합니다"

/-- How a command ends. -/
inductive Outcome where
  /-- All went well. -/
  | success
  /-- Something was found wrong. -/
  | failure
  /-- The words stand for no command. -/
  | misuse
  deriving Repr, DecidableEq

/-- The number that tells how a command has ended. -/
def Outcome.code : Outcome → Nat
  | .success => 0
  | .failure => 1
  | .misuse => 2

end JsonWorkbench
