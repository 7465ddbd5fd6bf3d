import JsonWorkbench.Text.Hexadecimal
import JsonWorkbench.Toml.Scan

/-!
# Strings in TOML

Strings in double quotes have escapes, strings in single quotes do not. Three quotes open a string
of several lines: a line break directly behind them does not count, one or two quotes may stand
inside, also at the end, and in double quotes a backslash at the end of a line takes away the
blanks and line breaks up to the next character.

## Main definitions

* `scanEscape` — the character of an escape.
* `scanBasic`, `scanLiteral`, `scanLongBasic`, `scanLongLiteral` — the four kinds.
* `scanString` — a string of any kind.
-/

namespace JsonWorkbench.Toml

/-- A character that stands for itself in a string, quotes and backslashes apart. -/
def isTextChar (c : Char) : Bool :=
  let n := c.toNat
  n == 9 || (0x20 ≤ n && n ≠ 0x7F)

/-- The character with a number of `n` hexadecimal digits. -/
def scanCode (n : Nat) (cs : List Char) : Except Failure (Char × List Char) :=
  let digits := (cs.take n).takeWhile fun c => (Text.hexValue? c).isSome
  if digits.length = n then
    match (Text.hexNumber? digits).bind Text.scalar? with
    | some c => .ok (c, cs.drop n)
    | none => final cs
  else final cs

/-- The character of an escape, of which the backslash has been read. -/
def scanEscape : List Char → Except Failure (Char × List Char)
  | [] => final []
  | c :: cs =>
    if c == 'b' then .ok ('\x08', cs)
    else if c == 't' then .ok ('\t', cs)
    else if c == 'n' then .ok ('\n', cs)
    else if c == 'f' then .ok ('\x0c', cs)
    else if c == 'r' then .ok ('\r', cs)
    else if c == '"' || c == '\\' then .ok (c, cs)
    else if c == 'u' then scanCode 4 cs
    else if c == 'U' then scanCode 8 cs
    else final cs

/-- The work of `scanBasic`; every step takes a character, so their number is enough fuel. -/
def scanBasicFrom : Nat → List Char → Except Failure (List Char × List Char)
  | 0, cs => final cs
  | _, [] => final []
  | fuel + 1, c :: cs =>
    if c == '"' then .ok ([], cs)
    else if c == '\\' then
      match scanEscape cs with
      | .error f => .error f
      | .ok (x, rest) => (scanBasicFrom fuel rest).map fun (s, behind) => (x :: s, behind)
    else if isTextChar c then
      (scanBasicFrom fuel cs).map fun (s, behind) => (c :: s, behind)
    else final (c :: cs)

/-- A string in double quotes on one line, of which the opening quote has been read. -/
def scanBasic (cs : List Char) : Except Failure (List Char × List Char) := scanBasicFrom (cs.length + 1) cs

/-- A string in single quotes on one line, of which the opening quote has been read. -/
def scanLiteral (cs : List Char) : Except Failure (List Char × List Char) :=
  let (text, rest) := cs.span fun c => c ≠ '\'' && isTextChar c
  match rest with
  | '\'' :: behind => .ok (text, behind)
  | _ => final rest

/-- The text without a line end at its start. -/
def dropLineEnd (cs : List Char) : List Char :=
  match lineEnd cs with
  | .ok rest => rest
  | .error _ => cs

/-- The text behind the blanks and line ends that a backslash takes away, if a line end is among
them before any other character. -/
def continuation? (cs : List Char) : Option (List Char) :=
  match lineEnd (skipBlanks cs) with
  | .error _ => none
  | .ok rest => some (skipAll (rest.length + 1) rest)
where
  /-- The text behind blanks and line ends. -/
  skipAll : Nat → List Char → List Char
    | 0, cs => cs
    | fuel + 1, cs =>
      match lineEnd (skipBlanks cs) with
      | .ok rest => skipAll fuel rest
      | .error _ => skipBlanks cs

/-- The work of both strings of several lines; every step takes a character, so their number is
enough fuel. -/
def scanLongFrom (quote : Char) : Nat → List Char → Except Failure (List Char × List Char)
  | 0, cs => final cs
  | _, [] => final []
  | fuel + 1, c :: cs =>
    let go (text rest : List Char) : Except Failure (List Char × List Char) :=
      (scanLongFrom quote fuel rest).map fun (s, behind) => (text ++ s, behind)
    if c == quote then
      let (quotes, rest) := (c :: cs).span (· == quote)
      if quotes.length < 3 then go quotes rest
      else
        let inside := min (quotes.length - 3) 2
        .ok (quotes.take inside, quotes.drop (inside + 3) ++ rest)
    else if c == '\\' && quote == '"' then
      match continuation? cs with
      | some rest => go [] rest
      | none =>
        match scanEscape cs with
        | .error f => .error f
        | .ok (x, rest) => go [x] rest
    else if c == '\n' || c == '\r' then
      match lineEnd (c :: cs) with
      | .error _ => final (c :: cs)
      | .ok rest => go ['\n'] rest
    else if isTextChar c then go [c] cs
    else final (c :: cs)

/-- A string of several lines, of which the opening quotes have been read. -/
def scanLong (quote : Char) (cs : List Char) : Except Failure (List Char × List Char) :=
  let text := dropLineEnd cs
  scanLongFrom quote (text.length + 1) text

/-- A string. -/
def scanString : List Char → Except Failure (List Char × List Char)
  | '"' :: '"' :: '"' :: cs => scanLong '"' cs
  | '"' :: cs => scanBasic cs
  | '\'' :: '\'' :: '\'' :: cs => scanLong '\'' cs
  | '\'' :: cs => scanLiteral cs
  | cs => soft cs

end JsonWorkbench.Toml
