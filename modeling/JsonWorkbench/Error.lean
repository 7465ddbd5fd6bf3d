import JsonWorkbench.Format
import JsonWorkbench.Schema.LoadError
import JsonWorkbench.Value.Basic

/-!
# Errors

Every way in which an operation can fail, as a cause with the data it is about. The wording is
kept apart, in `Error.message` of the module `ErrorText`.

## Main definitions

* `PathFault`, `ConditionFault`, `Mismatch`, `FileFault`, `XmlFault` — the causes of one kind.
* `Error` — the sum of all.
-/

namespace JsonWorkbench

/-- What can be wrong with a path text or with the use of a path. -/
inductive PathFault where
  /-- Nothing stands behind two dots. -/
  | descendantWithoutName
  /-- Nothing stands behind a dot. -/
  | keyWithoutName
  /-- A filter has no end. -/
  | openFilter
  /-- A quoted key has no end. -/
  | openQuote
  /-- No bracket stands behind a quoted key. -/
  | noBracketBehindQuote
  /-- A bracket has no end. -/
  | openBracket
  /-- A bracket holds no index. -/
  | badIndex (text : String)
  /-- A slice has a bound that is no number. -/
  | badBound (text : String)
  /-- A path to write at has a segment that selects more than one place. -/
  | notLiteral (segment : String)
  /-- A path for a simple query descends, filters or slices. -/
  | notSimple
  deriving Repr, DecidableEq

/-- What can be wrong with a condition. -/
inductive ConditionFault where
  /-- A field is no path. -/
  | field (path : String) (fault : PathFault)
  /-- A regular expression is not well formed. -/
  | pattern
  deriving Repr, DecidableEq

/-- How a value can fail to fit an operation. -/
inductive Mismatch where
  /-- A write passes a value that is no container. -/
  | onTheWay (path : String) (found : Kind)
  /-- A write ends in a value that is no container. -/
  | atTheEnd (path : String) (found : Kind)
  /-- What is to be unflattened is no object. -/
  | flatInput
  /-- There are fewer than two values to merge. -/
  | tooFewInputs (count : Nat)
  /-- A value to merge is no object. -/
  | mergeInput (number : Nat) (found : Kind)
  /-- What is to be sorted is no array. -/
  | sortTarget (location : String)
  /-- What is to be filtered is no array. -/
  | filterTarget
  /-- What is to become a table is no array. -/
  | tableInput
  /-- A row of a table is no object. -/
  | tableRow (number : Nat)
  /-- What is to become a configuration document is no object. -/
  | documentRoot
  deriving Repr, DecidableEq

/-- Why a file cannot be read or written. -/
inductive FileFault where
  | notFound
  | isDirectory
  | notDirectory
  | exists
  | nameTooLong
  /-- Any other fault that the system reports, with its number. -/
  | system (number : Nat) (text : String)
  /-- The content is not UTF-8. -/
  | notUtf8
  /-- The content is not UTF-8 from an index on: so many bytes are wrong, or the end is missing. -/
  | notUtf8At (index : Nat) (wrong : Option Nat)
  deriving Repr, DecidableEq

/-- What can be wrong with an element document. -/
inductive XmlFault where
  | textOutsideRoot
  | noRoot
  | notTerminated (terminator : String)
  | noName
  | openStartTag
  | noEndTag (name : String)
  | wrongEndTag (opened closed : String)
  | openEndTag
  deriving Repr, DecidableEq

/-- Why a document of another format cannot be read. -/
inductive DecodeFault where
  /-- An element document is not well formed at a line and column. -/
  | xml (line column : Nat) (fault : XmlFault)
  /-- A document of another format is not well formed, at a line if one is known. -/
  | malformed (format : Format) (line : Option Nat)
  deriving Repr, DecidableEq

/-- A failure of an operation. -/
inductive Error where
  /-- A text is no JSON document. -/
  | parse (e : Json.ReadError)
  /-- A text is no path, or a path is of no use for the operation. -/
  | invalidPath (path : String) (fault : PathFault)
  /-- There is nothing at a path. -/
  | pathNotFound (path : String)
  /-- A text is no condition. -/
  | invalidCondition (condition : String) (fault : ConditionFault)
  /-- A format is not known. -/
  | unsupportedFormat (name : String)
  /-- A value does not fit the operation. -/
  | mismatch (m : Mismatch)
  /-- A document of another format cannot be read. -/
  | decode (fault : DecodeFault)
  /-- An integer is too great for the format, at a place in the document. -/
  | integerTooGreat (location : String) (n : Int)
  /-- A text is no schema. -/
  | invalidSchema (e : Schema.LoadError)
  /-- A file cannot be read. -/
  | fileOpen (file : String) (fault : FileFault)
  /-- A file cannot be written. -/
  | fileWrite (file : String) (fault : FileFault)
  /-- A file pattern is not well formed. -/
  | invalidPattern (pattern : String)
  /-- A file pattern selects no file. -/
  | noFilesFound

end JsonWorkbench
