import JsonWorkbench.Yaml.Block
import JsonWorkbench.Yaml.Plain
import JsonWorkbench.Yaml.Property
import JsonWorkbench.Yaml.Quoted
import JsonWorkbench.Yaml.Token

/-!
# From Text to Tokens

Two things make a token stand earlier than the place where it is recognised. A collection by
indentation has no bracket of its own: it begins where the column of an entry exceeds that of the
collection around it, and ends where a line begins further to the left. And whether a scalar is a
key is known only at the colon behind it: until then the scalar is a candidate, and if the colon
comes, the tokens for the key are put in before it. A candidate lasts to the end of its line and
at most 1024 characters.

When a text is broken, the tokens before the break count as read, except those from the earliest
candidate on, about which nothing is known yet.

## Main definitions

* `Candidate`, `Lexer` — what is known at a place of the text.
* `Lexer.step` — the next token, with those that it brings about.
* `TokenRun`, `scan` — the tokens of a text.
-/

namespace JsonWorkbench.Yaml

/-- A token that becomes a key if a colon follows. -/
structure Candidate where
  /-- The number of tokens before it. -/
  number : Nat
  /-- Whether nothing but a key can stand here. -/
  required : Bool
  /-- Where it begins. -/
  mark : Mark

/-- What is known at a place of a text. -/
structure Lexer where
  /-- The rest of the text. -/
  cursor : Cursor
  /-- The tokens so far, the last one first. -/
  found : List Token
  /-- Their number. -/
  count : Nat
  /-- The columns of the collections by indentation that are open, the innermost first. -/
  columns : List Nat
  /-- The candidate outside of all brackets, if there is one. -/
  candidate : Option Candidate
  /-- The candidates outside of the innermost bracket, outside of the one around it, and so on. -/
  outer : List (Option Candidate)
  /-- Whether a key may begin here. -/
  keyAllowed : Bool

namespace Lexer

/-- The start of a text. -/
def start (cs : List Char) : Lexer :=
  { cursor := .start cs, found := [], count := 0, columns := [], candidate := none, outer := [],
    keyAllowed := true }

/-- Whether a bracket is open. -/
def inFlow (s : Lexer) : Bool := !s.outer.isEmpty

/-- The place. -/
def mark (s : Lexer) : Mark := s.cursor.mark

/-- The failure at this place. -/
def fault (s : Lexer) : Except Nat α := s.cursor.fault

/-- The least column in which the content of the innermost collection may stand. -/
def margin (s : Lexer) : Nat :=
  match s.columns with
  | [] => 0
  | column :: _ => column + 1

/-- One more token, which begins at a place. -/
def push (s : Lexer) (kind : TokenKind) (mark : Mark) : Lexer :=
  { s with found := { line := mark.line + 1, kind } :: s.found, count := s.count + 1 }

/-- One more token, put in behind the first `number` tokens. -/
def insertAt (s : Lexer) (number : Nat) (kind : TokenKind) (mark : Mark) : Lexer :=
  let later := s.count - number
  let token : Token := { line := mark.line + 1, kind }
  { s with found := s.found.take later ++ token :: s.found.drop later, count := s.count + 1 }

/-! ### Candidates -/

/-- Whether a candidate has lasted until a place. -/
def Candidate.lasts (k : Candidate) (at_ : Mark) : Bool :=
  at_.line ≤ k.mark.line && at_.column ≤ k.mark.column + 1024

/-- The candidate if it lasts; a required one must. -/
def renewed (at_ : Mark) : Option Candidate → Except Nat (Option Candidate)
  | none => .ok none
  | some k =>
    if Candidate.lasts k at_ then .ok (some k)
    else if k.required then .error (at_.line + 1)
    else .ok none

/-- The state without the candidates that have not lasted. -/
def renewCandidates (s : Lexer) : Except Nat Lexer := do
  let outer ← s.outer.mapM (renewed s.mark)
  let candidate ← renewed s.mark s.candidate
  return { s with outer, candidate }

/-- The state without its candidate, which must not be a required one. -/
def dropCandidate (s : Lexer) : Except Nat Lexer :=
  if (s.candidate.map (·.required)).getD false then s.fault
  else .ok { s with candidate := none }

/-- The state in which the next token is a candidate, if a key may begin here. -/
def offerCandidate (s : Lexer) : Except Nat Lexer :=
  if s.keyAllowed then do
    let required := !s.inFlow && s.columns.head? == some s.mark.column
    let s' ← s.dropCandidate
    return { s' with candidate := some { number := s.count, required, mark := s.mark } }
  else .ok s

/-! ### Indentation -/

/-- The state with the collections ended that stand further to the right than a column; all of
them if no column is given. -/
def closeBlocks (s : Lexer) (column : Option Nat) : Lexer :=
  if s.inFlow then s
  else
    let ended := s.columns.takeWhile fun n => (column.map fun k => decide (k < n)).getD true
    let closed := ended.foldl (fun s _ => s.push .blockEnd s.mark) s
    { closed with columns := s.columns.drop ended.length }

/-- The state with a collection begun at a place, if the place is to the right of the innermost
one. Its token is put in behind the first `number` tokens. -/
def openBlock (s : Lexer) (kind : TokenKind) (at_ : Mark) (number : Nat) : Lexer :=
  if s.inFlow || at_.column < s.margin then s
  else { s.insertAt number kind at_ with columns := at_.column :: s.columns }

/-! ### Blanks -/

/-- The cursor behind blanks, comments and line breaks, and whether a line break was among them.
A tab counts as a blank only where no key may begin; `lineKeys` says that one may at the start of
a line. Every step takes a line, so the number of characters is enough fuel. -/
def skipBlanks (lineKeys : Bool) : Nat → Bool → Cursor → Bool × Cursor
  | 0, keyAllowed, c => (keyAllowed, c)
  | fuel + 1, keyAllowed, c =>
    let c := c.skipWhile fun x => x == ' ' || (x == '\t' && !keyAllowed)
    let c := if c.isAt '#' then c.skipWhile (!isBreak ·) else c
    match c.rest with
    | [] => (keyAllowed, c)
    | x :: _ =>
      if isBreak x then skipBlanks lineKeys fuel (keyAllowed || lineKeys) c.next
      else (keyAllowed, c)

/-- The state at the next token. A mark of byte order at the very start is skipped. -/
def toNextToken (s : Lexer) : Lexer :=
  let begun := s.mark == { line := 0, column := 0 } && s.cursor.isAt '\uFEFF'
  let c := if begun then s.cursor.next else s.cursor
  if s.inFlow then
    { s with cursor := (skipBlanks false (c.rest.length + 1) false c).2 }
  else
    let (keyAllowed, cursor) := skipBlanks true (c.rest.length + 1) s.keyAllowed c
    { s with keyAllowed, cursor }

/-! ### Tokens -/

/-- One more token of `n` characters. -/
def take (s : Lexer) (kind : TokenKind) (n : Nat) : Lexer :=
  { s.push kind s.mark with cursor := s.cursor.drop n }

/-- One more token whose reading has ended at a cursor. -/
def taken (s : Lexer) (kind : TokenKind) (behind : Cursor) : Lexer :=
  { s.push kind s.mark with cursor := behind }

/-- The end of the text, which counts as the start of a line. -/
def takeEnd (s : Lexer) : Except Nat Lexer := do
  let m := s.mark
  let at_ : Mark := if m.column = 0 then m else { line := m.line + 1, column := 0 }
  let s := { s with cursor := { s.cursor with mark := at_ } }
  let s ← (s.closeBlocks none).dropCandidate
  return { s.push .streamEnd at_ with keyAllowed := false }

/-- A directive. -/
def takeDirective (s : Lexer) : Except Nat Lexer := do
  let s ← (s.closeBlocks none).dropCandidate
  let (kind, behind) ← readDirective s.cursor
  return { s.taken kind behind with keyAllowed := false }

/-- The mark of a document's start or end. -/
def takeBoundary (s : Lexer) (kind : TokenKind) : Except Nat Lexer := do
  let s ← (s.closeBlocks none).dropCandidate
  return { s.take kind 3 with keyAllowed := false }

/-- An opening bracket or brace. -/
def takeOpening (s : Lexer) (kind : TokenKind) : Except Nat Lexer := do
  let s ← s.offerCandidate
  let s := { s with outer := s.candidate :: s.outer, candidate := none, keyAllowed := true }
  return s.take kind 1

/-- A closing bracket or brace. -/
def takeClosing (s : Lexer) (kind : TokenKind) : Except Nat Lexer := do
  let s ← s.dropCandidate
  let s :=
    match s.outer with
    | [] => s
    | candidate :: outer => { s with candidate, outer }
  return { s.take kind 1 with keyAllowed := false }

/-- A comma of a flow collection. -/
def takeComma (s : Lexer) : Except Nat Lexer := do
  let s ← s.dropCandidate
  return { s.take .flowEntry 1 with keyAllowed := true }

/-- A hyphen before an item. -/
def takeHyphen (s : Lexer) : Except Nat Lexer :=
  if !s.inFlow && !s.keyAllowed then s.fault
  else do
    let s ← (s.openBlock .blockSequenceStart s.mark s.count).dropCandidate
    return { s.take .blockEntry 1 with keyAllowed := true }

/-- A question mark before a key. -/
def takeKeyMark (s : Lexer) : Except Nat Lexer :=
  if !s.inFlow && !s.keyAllowed then s.fault
  else do
    let s ← (s.openBlock .blockMappingStart s.mark s.count).dropCandidate
    return { s.take .key 1 with keyAllowed := !s.inFlow }

/-- A colon before a value. If there is a candidate, it is the key. -/
def takeColon (s : Lexer) : Except Nat Lexer :=
  match s.candidate with
  | some k =>
    let s := s.insertAt k.number .key k.mark
    let s := s.openBlock .blockMappingStart k.mark k.number
    .ok { s.take .value 1 with candidate := none, keyAllowed := false }
  | none =>
    if !s.inFlow && !s.keyAllowed then s.fault
    else
      let s := s.openBlock .blockMappingStart s.mark s.count
      .ok { s.take .value 1 with keyAllowed := !s.inFlow }

/-- An anchor or a reference. -/
def takeName (s : Lexer) (kind : List Char → TokenKind) : Except Nat Lexer := do
  let s ← s.offerCandidate
  let (name, behind) ← readName s.cursor.next
  return { s.taken (kind name) behind with keyAllowed := false }

/-- A type tag. -/
def takeTag (s : Lexer) : Except Nat Lexer := do
  let s ← s.offerCandidate
  let (tag, behind) ← readTag s.inFlow s.cursor
  return { s.taken (.tag tag) behind with keyAllowed := false }

/-- A block scalar. -/
def takeBlock (s : Lexer) (literal : Bool) : Except Nat Lexer := do
  let s ← s.dropCandidate
  let (text, behind) ← readBlock literal s.margin s.cursor.next
  return { s.taken (.scalar text false) behind with keyAllowed := true }

/-- A quoted scalar. -/
def takeQuoted (s : Lexer) (double : Bool) : Except Nat Lexer := do
  let s ← s.offerCandidate
  let (text, behind) ← readQuoted double s.cursor.next
  return { s.taken (.scalar text false) behind with keyAllowed := false }

/-- A plain scalar. -/
def takePlain (s : Lexer) : Except Nat Lexer := do
  let s ← s.offerCandidate
  let scalar ← readPlain s.inFlow s.margin s.cursor
  return { s.taken (.scalar scalar.text true) scalar.behind with keyAllowed := scalar.crossed }

/-- A character that begins no plain scalar whatever follows it. -/
def isIndicator (c : Char) : Bool :=
  isFlowIndicator c || c == '#' || c == '&' || c == '*' || c == '!' || c == '|' || c == '>' ||
    c == '\'' || c == '"' || c == '%' || c == '@' || c == '\x60'

/-- The token that begins with a character. -/
def dispatch (s : Lexer) (c : Char) : Except Nat Lexer :=
  let following := s.cursor.peek 1
  let alone := endsWord following
  if s.mark.column = 0 && c == '%' then s.takeDirective
  else if s.cursor.isAtTriple '-' then s.takeBoundary .documentStart
  else if s.cursor.isAtTriple '.' then s.takeBoundary .documentEnd
  else if c == '[' then s.takeOpening .flowSequenceStart
  else if c == '{' then s.takeOpening .flowMappingStart
  else if c == ']' then s.takeClosing .flowSequenceEnd
  else if c == '}' then s.takeClosing .flowMappingEnd
  else if c == ',' then s.takeComma
  else if c == '-' && alone then s.takeHyphen
  else if c == '?' && (s.inFlow || alone) then s.takeKeyMark
  else if c == ':' && (s.inFlow || alone) then s.takeColon
  else if c == '*' then s.takeName .alias
  else if c == '&' then s.takeName .anchor
  else if c == '!' then s.takeTag
  else if c == '|' && !s.inFlow then s.takeBlock true
  else if c == '>' && !s.inFlow then s.takeBlock false
  else if c == '\'' then s.takeQuoted false
  else if c == '"' then s.takeQuoted true
  else if isIndicator c || isGap c then s.fault
  else s.takePlain

/-- The state behind the next token. -/
def step (s : Lexer) : Except Nat Lexer := do
  let s ← s.toNextToken.renewCandidates
  let s := s.closeBlocks (some s.mark.column)
  let s ←
    match s.cursor.rest with
    | [] => s.takeEnd
    | c :: _ => s.dispatch c
  s.renewCandidates

/-- The number of tokens before the earliest candidate. -/
def settled (s : Lexer) : Nat :=
  (s.candidate :: s.outer).foldl (fun n k => min n ((k.map (·.number)).getD n)) s.count

/-- Whether the end of the text has been read. -/
def isDone (s : Lexer) : Bool := (s.found.head?.map (·.kind)) == some .streamEnd

end Lexer

/-- The tokens of a text, as far as it could be read, and the line where it is broken, if it is. -/
structure TokenRun where
  /-- The tokens. -/
  tokens : List Token
  /-- The number of the line. -/
  fault : Option Nat
  deriving Repr, DecidableEq

/-- The work of `scan`. Every step takes a character or ends the run, so the number of characters
is enough fuel. -/
def scanFrom : Nat → Lexer → TokenRun
  | 0, s => { tokens := s.found.reverse, fault := none }
  | fuel + 1, s =>
    match s.step with
    | .error line => { tokens := s.found.reverse.take s.settled, fault := some line }
    | .ok s => if s.isDone then { tokens := s.found.reverse, fault := none } else scanFrom fuel s

/-- A character that may stand in a text. -/
def isPrintable (c : Char) : Bool :=
  let n := c.toNat
  n == 0x09 || n == 0x0A || n == 0x0D || (0x20 ≤ n && n ≤ 0x7E) || n == 0x85 ||
    (0xA0 ≤ n && n ≤ 0xD7FF) || (0xE000 ≤ n && n ≤ 0xFFFD) || 0x10000 ≤ n

/-- The tokens of a text. A text with a character that may not stand in it has none. -/
def scan (cs : List Char) : TokenRun :=
  if cs.all isPrintable then scanFrom (cs.length + 1) (.start (unifyBreaks cs))
  else { tokens := [], fault := some 1 }

end JsonWorkbench.Yaml
