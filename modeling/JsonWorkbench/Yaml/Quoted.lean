import JsonWorkbench.Text.Hexadecimal
import JsonWorkbench.Yaml.Folding

/-!
# Quoted Scalars

A scalar in single quotes, where a quote is written twice, or in double quotes, where a backslash
begins an escape. Both may run over several lines, which are folded; a backslash before a line
break takes it away.

## Main definitions

* `readEscape` — the character of an escape.
* `readQuoted` — a quoted scalar.
-/

namespace JsonWorkbench.Yaml

/-- The character that a letter behind a backslash stands for. -/
def letterEscape? (c : Char) : Option Char :=
  if c == ' ' || c == '"' || c == '/' || c == '\\' || c == '\t' then some c
  else if c == '0' then some '\x00'
  else if c == 'a' then some '\x07'
  else if c == 'b' then some '\x08'
  else if c == 't' then some '\t'
  else if c == 'n' then some '\n'
  else if c == 'v' then some '\x0b'
  else if c == 'f' then some '\x0c'
  else if c == 'r' then some '\r'
  else if c == 'e' then some '\x1b'
  else if c == 'N' then some '\u0085'
  else if c == '_' then some '\u00a0'
  else if c == 'L' then some '\u2028'
  else if c == 'P' then some '\u2029'
  else none

/-- The number of hexadecimal digits behind a letter behind a backslash. -/
def codeLength? (c : Char) : Option Nat :=
  if c == 'x' then some 2
  else if c == 'u' then some 4
  else if c == 'U' then some 8
  else none

/-- The character of the escape whose backslash is next, and the cursor behind it. -/
def readEscape (c : Cursor) : Except Nat (Char × Cursor) :=
  match c.peek 1 with
  | none => c.fault
  | some letter =>
    match letterEscape? letter, codeLength? letter with
    | some x, _ => .ok (x, c.drop 2)
    | none, none => c.fault
    | none, some n =>
      let digits := (c.rest.drop 2).take n
      if digits.length < n then c.fault
      else
        match (Text.hexNumber? digits).bind Text.scalar? with
        | some x => .ok (x, c.drop (n + 2))
        | none => c.fault

/-- The work of `readQuoted`; every step takes at least one character, so the number of
characters is enough fuel. -/
def readQuotedFrom (double : Bool) : Nat → Cursor → Except Nat (List Char × Cursor)
  | 0, c => c.fault
  | fuel + 1, c =>
    if c.isAtBoundary then c.fault
    else
      match c.rest with
      | [] => c.fault
      | x :: more =>
        let goOn (text : List Char) (behind : Cursor) : Except Nat (List Char × Cursor) :=
          (readQuotedFrom double fuel behind).map fun (s, last) => (text ++ s, last)
        if x == '\'' && !double then
          if more.head? == some '\'' then goOn [x] (c.drop 2) else .ok ([], c.next)
        else if x == '"' && double then .ok ([], c.next)
        else if x == '\\' && double then
          if (more.head?.map isBreak).getD false then
            let (run, behind) := (c.drop 2).span isGapOrBreak
            goOn (run.filter isBreak) behind
          else
            match readEscape c with
            | .error e => .error e
            | .ok (y, behind) => goOn [y] behind
        else if isGapOrBreak x then
          let (run, behind) := c.span isGapOrBreak
          goOn (foldGap run) behind
        else goOn [x] c.next

/-- A quoted scalar, of which the opening quote has been read, and the cursor behind the closing
quote. -/
def readQuoted (double : Bool) (c : Cursor) : Except Nat (List Char × Cursor) :=
  readQuotedFrom double (c.rest.length + 1) c

end JsonWorkbench.Yaml
