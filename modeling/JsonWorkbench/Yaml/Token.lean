/-!
# Tokens of YAML Texts

The pieces of which a text is made once blanks, comments and indentation are understood. Of a
token's place only the line is kept; it is what messages tell.

## Main definitions

* `Tag`, `TokenKind`, `Token`.
-/

namespace JsonWorkbench.Yaml

/-- A type tag as written. -/
structure Tag where
  /-- The name of the prefix, empty if the tag is written in full. -/
  handle : List Char
  /-- What stands behind the prefix. -/
  suffix : List Char
  deriving Repr, DecidableEq

/-- The kinds of tokens. -/
inductive TokenKind where
  /-- The end of the text. -/
  | streamEnd
  /-- The version that a text says it is written in. -/
  | versionDirective (major minor : Nat)
  /-- A prefix for tags. -/
  | tagDirective (handle start : List Char)
  /-- The mark of a document's start. -/
  | documentStart
  /-- The mark of a document's end. -/
  | documentEnd
  /-- A sequence by indentation begins. -/
  | blockSequenceStart
  /-- A mapping by indentation begins. -/
  | blockMappingStart
  /-- A collection by indentation ends. -/
  | blockEnd
  /-- An opening bracket. -/
  | flowSequenceStart
  /-- A closing bracket. -/
  | flowSequenceEnd
  /-- An opening brace. -/
  | flowMappingStart
  /-- A closing brace. -/
  | flowMappingEnd
  /-- The hyphen before an item. -/
  | blockEntry
  /-- The comma behind an entry. -/
  | flowEntry
  /-- A key follows. -/
  | key
  /-- A value follows. -/
  | value
  /-- A reference to an anchor. -/
  | alias (name : List Char)
  /-- A name for the node that follows. -/
  | anchor (name : List Char)
  /-- A type for the node that follows. -/
  | tag (t : Tag)
  /-- A scalar; `plain` if it has no quotes and is no block. -/
  | scalar (text : List Char) (plain : Bool)
  deriving Repr, DecidableEq

/-- A token on a line, counted from one. -/
structure Token where
  /-- The number of the line. -/
  line : Nat
  /-- What the token is. -/
  kind : TokenKind
  deriving Repr, DecidableEq

end JsonWorkbench.Yaml
