import JsonWorkbench.Regex.Basic
import JsonWorkbench.Decimal.Numeral
import JsonWorkbench.Text.Hexadecimal

/-!
# Reading Regular Expressions

The written form of regular expressions: literals, classes, groups, alternatives, repetitions and
flags. Look-around and references to groups are no part of it. A text that is not well formed has
no expression; why is not kept, since no message says more than that.

Flags hold from the place where they are set to the end of the group around it, alternatives
included, so the functions take the flags at hand and answer with those that hold behind.

## Main definitions

* `Flags` — the modes.
* `parse?` — the expression of a text, with the flags that hold at its start.
-/

namespace JsonWorkbench.Regex

/-- The modes of matching and reading. -/
structure Flags where
  /-- Case is ignored. -/
  ignoreCase : Bool := false
  /-- The anchors match at lines. -/
  multiLine : Bool := false
  /-- The dot matches line ends. -/
  dotAll : Bool := false
  /-- Blanks and comments are skipped. -/
  verbose : Bool := false
  /-- Classes are those of all characters, not only of the plain alphabet. -/
  unicode : Bool := true
  /-- A carriage return ends lines too. -/
  crlf : Bool := false
  deriving Repr, DecidableEq

namespace Flags

/-- The characters of words. -/
def word (f : Flags) : CharSet := if f.unicode then .word else .asciiWord

/-- A character, or its variants where case is ignored. -/
def literal (f : Flags) (c : Char) : Regex := .char (.foldIf f.ignoreCase (.single c))

/-- The characters that the dot stands for. -/
def dot (f : Flags) : CharSet :=
  if f.dotAll then .all
  else if f.crlf then .compl (.union (.single '\n') (.single '\r'))
  else .compl (.single '\n')

/-- The condition of the anchor at starts. -/
def startLook (f : Flags) : Look :=
  if f.multiLine then (if f.crlf then .lineStartCrlf else .lineStart) else .textStart

/-- The condition of the anchor at ends. -/
def endLook (f : Flags) : Look :=
  if f.multiLine then (if f.crlf then .lineEndCrlf else .lineEnd) else .textEnd

end Flags

/-! ### Blanks and numbers -/

/-- The text behind blanks and comments, in verbose mode; else the text. -/
def skipVerboseFrom : Bool → List Char → List Char
  | _, [] => []
  | true, c :: cs => skipVerboseFrom (c != '\n') cs
  | false, c :: cs =>
    if Text.isBlank c then skipVerboseFrom false cs
    else if c == '#' then skipVerboseFrom true cs
    else c :: cs

/-- The text behind blanks and comments, in verbose mode. -/
def skipVerbose (f : Flags) (cs : List Char) : List Char :=
  if f.verbose then skipVerboseFrom false cs else cs

/-- The character behind hexadecimal digits, if there are digits and there is such a character. -/
def hexChar? (digits : List Char) : Option Char :=
  if digits.isEmpty then none
  else (Text.hexNumber? digits).bind Text.scalar?

/-- A character by its code: so many digits, or any number of them in braces. -/
def parseHex? (f : Flags) (count : Nat) (cs : List Char) : Option (Char × List Char) :=
  match skipVerbose f cs with
  | '{' :: rest =>
    match rest.span (· != '}') with
    | (digits, _ :: behind) =>
      (hexChar? (digits.filter fun c => !(f.verbose && Text.isBlank c))).map (·, behind)
    | _ => none
  | more =>
    if more.length < count then none else (hexChar? (more.take count)).map (·, more.drop count)

/-- A decimal number with blanks around it. -/
def parseCount? (cs : List Char) : Option (Nat × List Char) :=
  let (digits, rest) := Decimal.spanDigits (Text.trimStart cs)
  if digits.isEmpty || Decimal.digitsValue digits ≥ 0x100000000 then none
  else some (Decimal.digitsValue digits, Text.trimStart rest)

/-- The bounds of a counted repetition, of which the opening brace has been read. -/
def parseBounds? (f : Flags) (cs : List Char) : Option ((Nat × Option Nat) × List Char) :=
  match parseCount? (skipVerbose f cs) with
  | none => none
  | some (least, ',' :: rest) =>
    match skipVerbose f rest with
    | '}' :: behind => some ((least, none), behind)
    | more =>
      match parseCount? more with
      | some (most, '}' :: behind) => if least ≤ most then some ((least, some most), behind) else none
      | _ => none
  | some (least, '}' :: behind) => some ((least, some least), behind)
  | _ => none

/-! ### Escapes -/

/-- What an escape stands for. -/
inductive Escaped where
  /-- One character. -/
  | literal (c : Char)
  /-- A class. -/
  | set (s : CharSet)
  /-- A condition on a position. -/
  | look (l : Look)

/-- The characters that have a meaning of their own, or may be escaped without one. -/
def isEscapable (c : Char) : Bool :=
  c.toNat < 0x80 && !c.isAlphanum && c != '<' && c != '>'

/-- The class of a letter such as `d`; an upper-case letter stands for the complement. -/
def letterClass (f : Flags) (c : Char) : CharSet :=
  let base : CharSet :=
    match c.toLower with
    | 'd' => if f.unicode then .digit else .asciiDigit
    | 's' => if f.unicode then .space else .asciiSpace
    | _ => f.word
  .negateIf c.isUpper base

/-- A class with a name, of which the letter `p` or `P` has been read. -/
def parseNamed? (f : Flags) (negated : Bool) (cs : List Char) : Option (CharSet × List Char) :=
  let finish (name : List Char) (rest : List Char) : Option (CharSet × List Char) :=
    (CharSet.named? name).map fun s => (.negateIf negated (.foldIf f.ignoreCase s), rest)
  match skipVerbose f cs with
  | '{' :: rest =>
    match rest.span (· != '}') with
    | (name, _ :: behind) => finish name behind
    | _ => none
  | '\\' :: _ => none
  | c :: rest => finish [c] rest
  | [] => none

/-- A condition in braces behind the letter `b`; a brace without letters is left to what follows. -/
def parseBoundary? (cs : List Char) : Option (Look × List Char) :=
  match cs with
  | '{' :: rest =>
    match rest with
    | c :: _ =>
      if c.isAlpha || c == '-' then
        match rest.span (fun d => d.isAlpha || d == '-') with
        | (name, '}' :: behind) =>
          match String.ofList name with
          | "start" => some (.wordStart, behind)
          | "end" => some (.wordEnd, behind)
          | "start-half" => some (.wordStartHalf, behind)
          | "end-half" => some (.wordEndHalf, behind)
          | _ => none
        | _ => none
      else some (.wordBoundary, cs)
    | [] => none
  | _ => some (.wordBoundary, cs)

/-- An escape, of which the backslash has been read. -/
def parseEscape? (f : Flags) (cs : List Char) : Option (Escaped × List Char) :=
  match cs with
  | [] => none
  | c :: rest =>
    if c == 'x' then (parseHex? f 2 rest).map fun (d, more) => (.literal d, more)
    else if c == 'u' then (parseHex? f 4 rest).map fun (d, more) => (.literal d, more)
    else if c == 'U' then (parseHex? f 8 rest).map fun (d, more) => (.literal d, more)
    else if c == 'p' || c == 'P' then
      (parseNamed? f (c == 'P') rest).map fun (s, more) => (.set s, more)
    else if c.toLower == 'd' || c.toLower == 's' || c.toLower == 'w' then
      some (.set (letterClass f c), rest)
    else if isEscapable c then some (.literal c, rest)
    else
      match c with
      | 'a' => some (.literal '\x07', rest)
      | 'f' => some (.literal '\x0c', rest)
      | 't' => some (.literal '\t', rest)
      | 'n' => some (.literal '\n', rest)
      | 'r' => some (.literal '\r', rest)
      | 'v' => some (.literal '\x0b', rest)
      | 'A' => some (.look .textStart, rest)
      | 'z' => some (.look .textEnd, rest)
      | 'B' => some (.look .notWordBoundary, rest)
      | '<' => some (.look .wordStart, rest)
      | '>' => some (.look .wordEnd, rest)
      | 'b' => (parseBoundary? rest).map fun (l, more) => (.look l, more)
      | _ => none

/-! ### Classes in brackets -/

/-- An operation between sets in a bracket. -/
inductive SetOp where
  | inter
  | diff
  | symmDiff

/-- The result of an operation. -/
def SetOp.apply : SetOp → CharSet → CharSet → CharSet
  | .inter, a, b => .inter a b
  | .diff, a, b => .diff a b
  | .symmDiff, a, b => .symmDiff a b

/-- The items read so far since the last operation, under the operation and its left side. -/
def settle (f : Flags) (pending : Option (CharSet × SetOp)) (items : CharSet) : CharSet :=
  match pending with
  | some (left, op) => op.apply (.foldIf f.ignoreCase left) (.foldIf f.ignoreCase items)
  | none => items

/-- A class with a name in brackets and colons, of which `[:` has been read. -/
def parsePosix? (f : Flags) (cs : List Char) : Option (CharSet × List Char) :=
  let (negated, rest) :=
    match cs with
    | '^' :: more => (true, more)
    | _ => (false, cs)
  match rest.span (· != ':') with
  | (name, ':' :: ']' :: behind) =>
    (CharSet.posix? (String.ofList name)).map fun s =>
      (.negateIf negated (.foldIf f.ignoreCase s), behind)
  | _ => none

/-- One end of a range, or a class. -/
def parseItem? (f : Flags) (cs : List Char) : Option (Escaped × List Char) :=
  match cs with
  | [] => none
  | '\\' :: rest => parseEscape? f rest
  | c :: rest => some (.literal c, rest)

/-- A single character, a class or a range inside brackets. -/
def parseRange? (f : Flags) (cs : List Char) : Option (CharSet × List Char) :=
  match parseItem? f cs with
  | none => none
  | some (item, rest) =>
    let alone : Option (CharSet × List Char) :=
      match item with
      | .literal c => some (.single c, skipVerbose f rest)
      | .set s => some (s, skipVerbose f rest)
      | .look _ => none
    match skipVerbose f rest with
    | [] => none
    | '-' :: more =>
      match skipVerbose f more with
      | [] => none
      | ']' :: _ => alone
      | '-' :: _ => alone
      | upper =>
        match item, parseItem? f upper with
        | .literal a, some (.literal b, behind) =>
          if a.toNat ≤ b.toNat then some (.range a.toNat b.toNat, behind) else none
        | _, _ => none
    | _ => alone

/-- The hyphens at the start of a bracket, which stand for themselves. -/
def leadingHyphens (f : Flags) : Nat → List Char → Bool × List Char
  | 0, cs => (false, cs)
  | fuel + 1, cs =>
    match cs with
    | '-' :: rest => (true, (leadingHyphens f fuel (skipVerbose f rest)).2)
    | _ => (false, cs)

mutual

/-- A bracket, of which the opening bracket has been read. -/
def parseBracket? (f : Flags) : Nat → List Char → Option (CharSet × List Char)
  | 0, _ => none
  | fuel + 1, cs =>
    let start := skipVerbose f cs
    let (negated, rest) :=
      match start with
      | '^' :: more => (true, skipVerbose f more)
      | _ => (false, start)
    let (hyphens, rest) := leadingHyphens f rest.length rest
    let first : CharSet := if hyphens then .single '-' else .none
    let (first, rest) : CharSet × List Char :=
      match rest with
      | ']' :: more => if hyphens then (first, rest) else (.single ']', skipVerbose f more)
      | _ => (first, rest)
    (parseItems? f fuel none first rest).map fun (s, behind) =>
      (.negateIf negated (.foldIf f.ignoreCase s), behind)

/-- The items of a bracket up to the closing bracket, with the operation that waits for its right
side and the items since. -/
def parseItems? (f : Flags) :
    Nat → Option (CharSet × SetOp) → CharSet → List Char → Option (CharSet × List Char)
  | 0, _, _, _ => none
  | fuel + 1, pending, items, text =>
    match skipVerbose f text with
    | [] => none
    | ']' :: rest => some (settle f pending items, rest)
    | '[' :: rest =>
      let nested : Option (CharSet × List Char) :=
        match rest with
        | ':' :: more =>
          match parsePosix? f more with
          | some found => some found
          | none => parseBracket? f fuel rest
        | _ => parseBracket? f fuel rest
      match nested with
      | some (s, behind) => parseItems? f fuel pending (.union items s) behind
      | none => none
    | '&' :: '&' :: rest => parseItems? f fuel (some (settle f pending items, .inter)) .none rest
    | '-' :: '-' :: rest => parseItems? f fuel (some (settle f pending items, .diff)) .none rest
    | '~' :: '~' :: rest => parseItems? f fuel (some (settle f pending items, .symmDiff)) .none rest
    | cs =>
      match parseRange? f cs with
      | some (s, behind) => parseItems? f fuel pending (.union items s) behind
      | none => none

end

/-! ### Groups -/

/-- What stands behind the opening parenthesis of a group. -/
inductive Opening where
  /-- A group, with the flags inside and the name if it has one. -/
  | group (inside : Flags) (name : Option (List Char))
  /-- Flags for the rest of the group around. -/
  | setFlags (flags : Flags)

/-- One flag set or cleared. -/
def Flags.set? (f : Flags) (value : Bool) : Char → Option Flags
  | 'i' => some { f with ignoreCase := value }
  | 'm' => some { f with multiLine := value }
  | 's' => some { f with dotAll := value }
  | 'x' => some { f with verbose := value }
  | 'u' => some { f with unicode := value }
  | 'R' => some { f with crlf := value }
  | 'U' => some f
  | _ => none

/-- The flags between a question mark and a colon or parenthesis. -/
def parseFlags? (seen : List Char) (value : Bool) (f : Flags) :
    List Char → Option (Opening × List Char)
  | [] => none
  | c :: cs =>
    if c == ')' then
      if seen.isEmpty || seen.head? == some '-' then none else some (.setFlags f, cs)
    else if c == ':' then if seen.head? == some '-' then none else some (.group f none, cs)
    else if seen.contains c then none
    else if c == '-' then parseFlags? (c :: seen) false f cs
    else (f.set? value c).bind fun g => parseFlags? (c :: seen) value g cs

/-- Whether the text is a name of a group. -/
def isGroupName : List Char → Bool
  | [] => false
  | c :: cs =>
    (c == '_' || Text.isLetter c) &&
      cs.all fun d => d == '_' || d == '.' || d == '[' || d == ']' || Text.isAlphanumeric d

/-- The name of a group, up to the closing angle. -/
def parseGroupName? (f : Flags) (cs : List Char) : Option (Opening × List Char) :=
  match cs.span (· != '>') with
  | (name, _ :: rest) => if isGroupName name then some (.group f (some name), rest) else none
  | _ => none

/-- What stands behind an opening parenthesis. -/
def parseOpening? (f : Flags) (cs : List Char) : Option (Opening × List Char) :=
  match skipVerbose f cs with
  | '?' :: 'P' :: '<' :: rest => parseGroupName? f rest
  | '?' :: '<' :: '=' :: _ => none
  | '?' :: '<' :: '!' :: _ => none
  | '?' :: '<' :: rest => parseGroupName? f rest
  | '?' :: rest => parseFlags? [] true f (skipVerbose f rest)
  | more => some (.group f none, more)

/-! ### Expressions -/

/-- The state of reading inside a group. -/
structure Reading where
  /-- The flags at hand. -/
  flags : Flags
  /-- The names of groups so far. -/
  names : List (List Char)
  /-- The remaining text. -/
  rest : List Char

/-- The sequence of the items read, the last one first; flags have left no expression. -/
def sequence (items : List (Option Regex)) : Regex :=
  items.foldl (fun r item =>
    match item with
    | some a => .seq a r
    | none => r) .empty

/-- A question mark behind a repetition, which changes only what is preferred. -/
def skipLazy (f : Flags) (cs : List Char) : List Char :=
  match skipVerbose f cs with
  | '?' :: rest => rest
  | more => more

/-- The items with the last one repeated. -/
def repeatLast (least : Nat) (most : Option Nat) :
    List (Option Regex) → Option (List (Option Regex))
  | some a :: items => some (some (.repeat a least most) :: items)
  | _ => none

/-- The expressions read so far inside a group: finished alternatives and the items of the one at
hand, the last one first. -/
def parseGroup? : Nat → Option Regex → List (Option Regex) → Reading → Option (Regex × Reading)
  | 0, _, _, _ => none
  | fuel + 1, done, items, state =>
    let f := state.flags
    let settled : Regex :=
      match done with
      | some a => .alt a (sequence items)
      | none => sequence items
    let go (item : Regex) (rest : List Char) : Option (Regex × Reading) :=
      parseGroup? fuel done (some item :: items) { state with rest := rest }
    let again (least : Nat) (most : Option Nat) (rest : List Char) : Option (Regex × Reading) :=
      (repeatLast least most items).bind fun more =>
        parseGroup? fuel done more { state with rest := skipLazy f rest }
    match skipVerbose f state.rest with
    | [] => some (settled, { state with rest := [] })
    | ')' :: rest => some (settled, { state with rest := ')' :: rest })
    | '|' :: rest => parseGroup? fuel (some settled) [] { state with rest := rest }
    | '*' :: rest => again 0 none rest
    | '+' :: rest => again 1 none rest
    | '?' :: rest => again 0 (some 1) rest
    | '{' :: rest =>
      match parseBounds? f rest with
      | some ((least, most), behind) => again least most behind
      | none => none
    | '(' :: rest =>
      match parseOpening? f rest with
      | none => none
      | some (.setFlags g, behind) =>
        parseGroup? fuel done (none :: items) { state with flags := g, rest := behind }
      | some (.group inside name, behind) =>
        let names := name.toList
        if names.any state.names.contains then none
        else
          match parseGroup? fuel none []
              { flags := inside, names := names ++ state.names, rest := behind } with
          | some (a, inner) =>
            match inner.rest with
            | ')' :: more =>
              parseGroup? fuel done (some a :: items)
                { flags := f, names := inner.names, rest := more }
            | _ => none
          | none => none
    | '[' :: rest =>
      match parseBracket? f (rest.length + 1) rest with
      | some (s, behind) => go (.char s) behind
      | none => none
    | '.' :: rest => if f.unicode then go (.char f.dot) rest else none
    | '^' :: rest => go (.look f.startLook f.word) rest
    | '$' :: rest => go (.look f.endLook f.word) rest
    | '\\' :: rest =>
      match parseEscape? f rest with
      | some (.literal c, behind) => go (f.literal c) behind
      | some (.set s, behind) => go (.char s) behind
      | some (.look l, behind) => go (.look l f.word) behind
      | none => none
    | c :: rest => go (f.literal c) rest

/-- The expression of a text. -/
def parse? (flags : Flags) (pattern : String) : Option Regex :=
  let cs := pattern.toList
  match parseGroup? (2 * cs.length + 2) none [] { flags, names := [], rest := cs } with
  | some (r, state) => if state.rest.isEmpty then some r else none
  | none => none

end JsonWorkbench.Regex
