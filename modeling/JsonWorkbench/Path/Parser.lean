import JsonWorkbench.Error
import JsonWorkbench.Path.Basic

/-!
# Reading Paths

The text of a path: an optional `$`, then names behind dots, names behind two dots, and brackets
with a key in quotes, an index, bounds, a star or a filter. Blanks around the text and inside
brackets are ignored. What the text of a filter means is left to a function of the caller, which
is called when the filter is met, so that the first error in the text is the one reported.

Every segment takes at least one character, so the remaining text gets shorter; its length is the
fuel.

## Main definitions

* `closeFilter` — where a filter ends.
* `parseSegments` — the path of a text.
-/

namespace JsonWorkbench.PathText

/-! ### Where a filter ends -/

/-- The text up to the first `)]` and the text behind it. -/
def cutAtClose (cs : List Char) : Option (List Char × List Char) :=
  Text.cutAt [')', ']'] cs

/-- How the search for the end of a filter has ended. -/
inductive Search where
  /-- The filter, and the text behind it. -/
  | found (filter behind : List Char)
  /-- The text ends outside quotes. -/
  | missing
  /-- The text ends inside quotes. -/
  | insideQuotes

/-- A search with one character put in front of what it found. -/
def Search.cons (c : Char) : Search → Search
  | .found filter behind => .found (c :: filter) behind
  | other => other

/-- The search for the end of a filter: quoted texts are passed over, in which a backslash hides
the character behind it. -/
def searchClose : Option Char → Bool → List Char → Search
  | none, _, [] => .missing
  | some _, _, [] => .insideQuotes
  | some q, escaped, c :: cs =>
    let state : Option Char × Bool :=
      if escaped then (some q, false)
      else if c == '\\' then (some q, true)
      else if c == q then (none, false)
      else (some q, false)
    (searchClose state.1 state.2 cs).cons c
  | none, _, c :: cs =>
    if c == '\'' || c == '"' then (searchClose (some c) false cs).cons c
    else if c == ')' && cs.head? == some ']' then .found [] cs.tail
    else (searchClose none false cs).cons c

/-- The text of a filter and the text behind its end. The end is the first `)]` outside quotes;
where a quote is never closed it is the first one of all. -/
def closeFilter (cs : List Char) : Option (List Char × List Char) :=
  match searchClose none false cs with
  | .found filter behind => some (filter, behind)
  | .missing => none
  | .insideQuotes => cutAtClose cs

/-! ### Segments -/

/-- The name at the start of the text, up to a dot or an opening bracket. -/
def spanName (cs : List Char) : List Char × List Char :=
  cs.span fun c => !(c == '.' || c == '[')

/-- A bound of a slice; no text is no bound. -/
def readBound (cs : List Char) : Except PathFault (Option Nat) :=
  let text := Text.trim cs
  if text.isEmpty then .ok none
  else
    match readIndex? text with
    | some n => .ok (some n)
    | none => .error (.badBound (String.ofList text))

/-- The segment of a bracket that holds neither a filter nor a quoted key. -/
def readPlain (content : List Char) : Except PathFault (Segment φ) :=
  let text := Text.trim content
  if text = ['*'] then .ok .wildcard
  else
    match text.span (· != ':') with
    | (first, _ :: last) => do
      let a ← readBound first
      let b ← readBound last
      .ok (.slice a b)
    | (_, []) =>
      match readIndex? text with
      | some n => .ok (.index n)
      | none => .error (.badIndex (String.ofList text))

/-- The segment of a bracket, of which the opening bracket has been read, and the text behind it.
A filter is not among them. -/
def readBracket (cs : List Char) : Except PathFault (Segment φ × List Char) :=
  let plain : Except PathFault (Segment φ × List Char) :=
    match cs.span (· != ']') with
    | (_, []) => .error .openBracket
    | (content, _ :: behind) => (readPlain content).map (·, behind)
  match cs with
  | q :: rest =>
    if q == '\'' || q == '"' then
      match rest.span (· != q) with
      | (_, []) => .error .openQuote
      | (key, _ :: ']' :: behind) => .ok (.key (String.ofList key), behind)
      | _ => .error .noBracketBehindQuote
    else plain
  | [] => plain

/-- The segments of a text that has at most `fuel` characters. -/
def readSegments (wrap : PathFault → ε) (readFilter : String → Except ε φ) :
    Nat → List Char → Except ε (Segments φ)
  | _, [] => .ok []
  | 0, _ => .ok []
  | fuel + 1, '.' :: '.' :: rest =>
    match spanName rest with
    | ([], _) => .error (wrap .descendantWithoutName)
    | (name, behind) =>
      (readSegments wrap readFilter fuel behind).map (.descendant (String.ofList name) :: ·)
  | fuel + 1, '.' :: rest =>
    match spanName rest with
    | ([], _) => .error (wrap .keyWithoutName)
    | (name, behind) => (readSegments wrap readFilter fuel behind).map (.key (String.ofList name) :: ·)
  | fuel + 1, '[' :: '?' :: '(' :: body =>
    match closeFilter body with
    | none => .error (wrap .openFilter)
    | some (filter, behind) =>
      match readFilter (String.ofList filter) with
      | .error e => .error e
      | .ok c => (readSegments wrap readFilter fuel behind).map (.filter c :: ·)
  | fuel + 1, '[' :: body =>
    match readBracket body with
    | .error e => .error (wrap e)
    | .ok (s, behind) => (readSegments wrap readFilter fuel behind).map (s :: ·)
  | fuel + 1, cs =>
    let (name, behind) := spanName cs
    (readSegments wrap readFilter fuel behind).map (.key (String.ofList name) :: ·)

/-- The text of a path without the `$` at its start and the dot of its first name. -/
def withoutRoot (cs : List Char) : List Char :=
  let rest :=
    match cs with
    | '$' :: more => more
    | _ => cs
  match rest with
  | '.' :: '.' :: _ => rest
  | '.' :: more => more
  | _ => rest

/-- The path of a text. -/
def parseSegments (wrap : PathFault → ε) (readFilter : String → Except ε φ) (text : String) :
    Except ε (Segments φ) :=
  let cs := withoutRoot (Text.trim text.toList)
  readSegments wrap readFilter cs.length cs

end JsonWorkbench.PathText
