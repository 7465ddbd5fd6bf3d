/-!
# Scans

A scan reads the start of a text and answers with what it has read and the rest of the text. A
failure remembers the rest at the place where it arose, from which the line can be told, and
whether another reading may still be tried: behind an equals sign, say, only a value can follow,
and its failure is final.

## Main definitions

* `Failure` — where a scan fails.
* `soft`, `final` — the two failures at a place.
* `orElse`, `optionally`, `committed` — a second reading, a reading that may be missing, and one
  that may not fail.
-/

namespace JsonWorkbench.Toml

/-- A failure at a place of a text. -/
structure Failure where
  /-- Whether no other reading may be tried. -/
  isFinal : Bool
  /-- The rest of the text. -/
  left : List Char
  deriving Repr, DecidableEq

/-- The failure at a place behind which another reading may be tried. -/
def soft (cs : List Char) : Except Failure α := .error { isFinal := false, left := cs }

/-- The failure at a place that is final. -/
def final (cs : List Char) : Except Failure α := .error { isFinal := true, left := cs }

/-- A reading whose failure is final. -/
def committed (r : Except Failure α) : Except Failure α :=
  r.mapError fun f => { f with isFinal := true }

/-- A reading, or another one of the same text if it fails and the failure is not final. -/
def orElse (r : Except Failure α) (other : Unit → Except Failure α) : Except Failure α :=
  match r with
  | .error f => if f.isFinal then .error f else other ()
  | .ok a => .ok a

/-- A reading that may be missing, of a text. -/
def optionally (cs : List Char) (r : Except Failure (α × List Char)) : Except Failure (Option α × List Char) :=
  match r with
  | .error f => if f.isFinal then .error f else .ok (none, cs)
  | .ok (a, rest) => .ok (some a, rest)

/-- The text behind a character that is next. -/
def expect (x : Char) : List Char → Except Failure (List Char)
  | [] => soft []
  | c :: cs => if c == x then .ok cs else soft (c :: cs)

/-- The text behind a word that is next. -/
def expectWord (word cs : List Char) : Except Failure (List Char) :=
  if word.isPrefixOf cs then .ok (cs.drop word.length) else soft cs

/-! ### Blanks, comments and line ends -/

/-- A blank within a line. -/
def isBlank (c : Char) : Bool := c == ' ' || c == '\t'

/-- The text behind blanks. -/
def skipBlanks (cs : List Char) : List Char := cs.dropWhile isBlank

/-- The text behind a line end that is next. -/
def lineEnd : List Char → Except Failure (List Char)
  | '\n' :: cs => .ok cs
  | '\r' :: '\n' :: cs => .ok cs
  | cs => soft cs

/-- A character that may stand in a comment. -/
def isCommentChar (c : Char) : Bool :=
  let n := c.toNat
  n == 9 || (0x20 ≤ n && n ≠ 0x7F)

/-- The text behind a comment, if one is next. -/
def skipComment : List Char → List Char
  | '#' :: cs => cs.dropWhile isCommentChar
  | cs => cs

/-- The text behind the rest of a line: blanks, a comment, and the line end or the end of the
text. -/
def finishLine (cs : List Char) : Except Failure (List Char) :=
  match skipComment (skipBlanks cs) with
  | [] => .ok []
  | rest => lineEnd rest

/-- The text behind blanks, line ends and comments with their line ends. Every step takes a
character, so their number is enough fuel. -/
def skipGapFrom : Nat → List Char → Except Failure (List Char)
  | 0, cs => .ok cs
  | fuel + 1, cs =>
    match skipBlanks cs with
    | [] => .ok []
    | c :: rest =>
      if c == '#' then
        match lineEnd (skipComment (c :: rest)) with
        | .error f => .error f
        | .ok behind => skipGapFrom fuel behind
      else if c == '\n' || c == '\r' then
        match lineEnd (c :: rest) with
        | .error f => .error f
        | .ok behind => skipGapFrom fuel behind
      else .ok (c :: rest)

/-- The text behind blanks, line ends and comments with their line ends. -/
def skipGap (cs : List Char) : Except Failure (List Char) := skipGapFrom (cs.length + 1) cs

end JsonWorkbench.Toml
