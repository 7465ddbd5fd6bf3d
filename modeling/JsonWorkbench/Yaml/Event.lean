import JsonWorkbench.Yaml.Token

/-!
# From Tokens to Events

A document as the flat sequence of its scalars, references and the starts and ends of its
collections. The grammar is predictive: what is open is a list of goals, and the innermost goal
together with at most two tokens decides on the next event and on the goals that replace the
goal. Every event comes from one such step.

A missing scalar, as behind a colon with nothing after it, is an event like any other, with no
text.

## Main definitions

* `Event` — the events.
* `Goal`, `Grammar.step` — the grammar.
* `Document`, `Document.first` — the first document of a text.
-/

namespace JsonWorkbench.Yaml

/-- What an event says; `ρ` tells what a reference refers to. -/
inductive EventKind (ρ : Type) where
  /-- A reference to a node. -/
  | alias (target : ρ)
  /-- A scalar; `plain` if it has no quotes and is no block. -/
  | scalar (text : List Char) (plain : Bool)
  /-- A sequence begins. -/
  | sequenceStart
  /-- A sequence ends. -/
  | sequenceEnd
  /-- A mapping begins. -/
  | mappingStart
  /-- A mapping ends. -/
  | mappingEnd
  deriving Repr, DecidableEq

/-- An event on a line, with the name and the type that the text gives to its node. -/
structure Event (ρ : Type) where
  /-- The number of the line. -/
  line : Nat
  /-- What the event says. -/
  kind : EventKind ρ
  /-- The name of the node. -/
  anchor : Option (List Char)
  /-- The type of the node, in full. -/
  tag : Option (List Char)
  deriving Repr, DecidableEq

/-- An event whose references are names, as they stand in the text. -/
abbrev NamedEvent := Event (List Char)

/-- What has still to be read. -/
inductive Goal where
  /-- The content of a document that begins without a mark. -/
  | root
  /-- The content of a document behind its mark. -/
  | content
  /-- An item of a sequence by indentation, or its end. -/
  | item
  /-- An item of a sequence that is indented as the mapping around it, or its end. -/
  | looseItem
  /-- A key of a mapping by indentation, or its end. -/
  | key
  /-- The value of such a key. -/
  | value
  /-- An entry of a sequence in brackets, or its end; before all but the first stands a comma. -/
  | flowItem (first : Bool)
  /-- The key of a pair that is an entry of a sequence in brackets. -/
  | pairKey
  /-- The value of such a pair. -/
  | pairValue
  /-- The end of such a pair. -/
  | pairEnd
  /-- A key of a mapping in braces, or its end; before all but the first stands a comma. -/
  | flowKey (first : Bool)
  /-- The value of such a key. -/
  | flowValue
  /-- The missing value of an entry that is only a key. -/
  | flowNoValue
  deriving Repr, DecidableEq

/-- What holds for the whole of a document. -/
structure Grammar where
  /-- The prefixes that the handles of tags stand for. -/
  handles : List (List Char × List Char)
  /-- The line on which the text is broken, which counts when the tokens run out. -/
  lost : Nat

/-- A step: an event, the goals afterwards, and the tokens afterwards. -/
structure GrammarStep where
  /-- The event. -/
  event : NamedEvent
  /-- The goals. -/
  goals : List Goal
  /-- The tokens. -/
  tokens : List Token

namespace Grammar

/-- The next token. -/
def look (g : Grammar) : List Token → Except Nat Token
  | [] => .error g.lost
  | t :: _ => .ok t

/-- A scalar with no text. -/
def noScalar (line : Nat) (goals : List Goal) (tokens : List Token) : GrammarStep :=
  { event := { line, kind := .scalar [] true, anchor := none, tag := none }, goals, tokens }

/-- An event without name and type. -/
def bare (line : Nat) (kind : EventKind (List Char)) (goals : List Goal) (tokens : List Token) : GrammarStep :=
  { event := { line, kind, anchor := none, tag := none }, goals, tokens }

/-! ### Nodes -/

/-- What stands before a node. -/
structure Properties where
  /-- The name. -/
  anchor : Option (List Char)
  /-- The type and its line. -/
  tag : Option (Nat × Tag)

/-- What stands before the node that is next, in either order. -/
def properties (g : Grammar) (ts : List Token) : Except Nat (Properties × List Token) := do
  let t ← g.look ts
  let rest := ts.tail
  match t.kind with
  | .anchor name =>
    let u ← g.look rest
    match u.kind with
    | .tag tag => return ({ anchor := some name, tag := some (u.line, tag) }, rest.tail)
    | _ => return ({ anchor := some name, tag := none }, rest)
  | .tag tag =>
    let u ← g.look rest
    match u.kind with
    | .anchor name => return ({ anchor := some name, tag := some (t.line, tag) }, rest.tail)
    | _ => return ({ anchor := none, tag := some (t.line, tag) }, rest)
  | _ => return ({ anchor := none, tag := none }, ts)

/-- A tag in full. -/
def fullTag (g : Grammar) : Nat × Tag → Except Nat (List Char)
  | (line, tag) =>
    if tag.handle.isEmpty then .ok tag.suffix
    else
      match g.handles.lookup tag.handle with
      | some start => .ok (start ++ tag.suffix)
      | none => .error line

/-- A node. `block` allows collections by indentation, and `loose` also a sequence that is
indented as the mapping around it. -/
def node (g : Grammar) (block loose : Bool) (goals : List Goal) (ts : List Token) :
    Except Nat GrammarStep := do
  let first ← g.look ts
  match first.kind with
  | .alias name => return bare first.line (.alias name) goals ts.tail
  | _ =>
    let (given, ts) ← g.properties ts
    let t ← g.look ts
    let tag ← match given.tag with
      | none => pure none
      | some tag => (g.fullTag tag).map some
    let rest := ts.tail
    let event (kind : EventKind (List Char)) : NamedEvent :=
      { line := first.line, kind, anchor := given.anchor, tag }
    let nothing : Except Nat GrammarStep :=
      if given.anchor.isSome || tag.isSome then
        .ok { event := event (.scalar [] true), goals, tokens := ts }
      else .error t.line
    match t.kind with
    | .scalar text plain => return { event := event (.scalar text plain), goals, tokens := rest }
    | .flowSequenceStart =>
      return { event := event .sequenceStart, goals := .flowItem true :: goals, tokens := rest }
    | .flowMappingStart =>
      return { event := event .mappingStart, goals := .flowKey true :: goals, tokens := rest }
    | .blockEntry =>
      if loose then
        return { event := event .sequenceStart, goals := .looseItem :: goals, tokens := ts }
      else nothing
    | .blockSequenceStart =>
      if block then
        return { event := event .sequenceStart, goals := .item :: goals, tokens := rest }
      else nothing
    | .blockMappingStart =>
      if block then
        return { event := event .mappingStart, goals := .key :: goals, tokens := rest }
      else nothing
    | _ => nothing

/-- A node, or a missing scalar if a token is next that cannot begin one. -/
def nodeUnless (g : Grammar) (stop : TokenKind → Bool) (block loose : Bool) (goals : List Goal)
    (ts : List Token) : Except Nat GrammarStep := do
  let t ← g.look ts
  if stop t.kind then return noScalar t.line goals ts else g.node block loose goals ts

/-! ### Collections -/

/-- A token behind which an item of a sequence by indentation is missing. -/
def endsItem : TokenKind → Bool
  | .blockEntry | .blockEnd => true
  | _ => false

/-- A token behind which a key or value of a mapping by indentation is missing. -/
def endsPart : TokenKind → Bool
  | .key | .value | .blockEnd => true
  | _ => false

/-- A token that ends an entry of a sequence in brackets. -/
def endsFlowItem : TokenKind → Bool
  | .flowEntry | .flowSequenceEnd => true
  | _ => false

/-- A token that ends an entry of a mapping in braces. -/
def endsFlowPair : TokenKind → Bool
  | .flowEntry | .flowMappingEnd => true
  | _ => false

/-- A token that ends the content of a document. -/
def endsContent : TokenKind → Bool
  | .versionDirective _ _ | .tagDirective _ _ | .documentStart | .documentEnd | .streamEnd => true
  | _ => false

/-- The tokens behind the comma that stands before all entries but the first. -/
def comma (g : Grammar) (first : Bool) (ts : List Token) : Except Nat (List Token) := do
  if first then return ts
  else
    let t ← g.look ts
    if t.kind = .flowEntry then return ts.tail else throw t.line

/-- An entry of a sequence in brackets, or its end. -/
def flowItem (g : Grammar) (first : Bool) (goals : List Goal) (ts : List Token) :
    Except Nat GrammarStep := do
  let t ← g.look ts
  if t.kind = .flowSequenceEnd then return bare t.line .sequenceEnd goals ts.tail
  else
    let ts ← g.comma first ts
    let t ← g.look ts
    if t.kind = .key then
      return bare t.line .mappingStart (.pairKey :: .flowItem false :: goals) ts.tail
    else if t.kind = .flowSequenceEnd then return bare t.line .sequenceEnd goals ts.tail
    else g.node false false (.flowItem false :: goals) ts

/-- A key of a mapping in braces, or its end. -/
def flowKey (g : Grammar) (first : Bool) (goals : List Goal) (ts : List Token) :
    Except Nat GrammarStep := do
  let t ← g.look ts
  if t.kind = .flowMappingEnd then return bare t.line .mappingEnd goals ts.tail
  else
    let ts ← g.comma first ts
    let t ← g.look ts
    if t.kind = .key then
      g.nodeUnless (fun k => k = .value || endsFlowPair k) false false
        (.flowValue :: .flowKey false :: goals) ts.tail
    else if t.kind = .flowMappingEnd then return bare t.line .mappingEnd goals ts.tail
    else g.node false false (.flowNoValue :: .flowKey false :: goals) ts

/-- The step that a goal takes when `goals` are the goals around it. -/
def step (g : Grammar) (goal : Goal) (goals : List Goal) (ts : List Token) :
    Except Nat GrammarStep := do
  let t ← g.look ts
  match goal with
  | .root => g.node true false goals ts
  | .content => g.nodeUnless endsContent true false goals ts
  | .item =>
    match t.kind with
    | .blockEntry => g.nodeUnless endsItem true false (.item :: goals) ts.tail
    | .blockEnd => return bare t.line .sequenceEnd goals ts.tail
    | _ => throw t.line
  | .looseItem =>
    match t.kind with
    | .blockEntry =>
      g.nodeUnless (fun k => endsItem k || endsPart k) true false (.looseItem :: goals) ts.tail
    | _ => return bare t.line .sequenceEnd goals ts
  | .key =>
    match t.kind with
    | .key => g.nodeUnless endsPart true true (.value :: .key :: goals) ts.tail
    | .blockEnd => return bare t.line .mappingEnd goals ts.tail
    | _ => throw t.line
  | .value =>
    match t.kind with
    | .value => g.nodeUnless endsPart true true goals ts.tail
    | _ => return noScalar t.line goals ts
  | .flowItem first => g.flowItem first goals ts
  | .pairKey =>
    if t.kind = .value || endsFlowItem t.kind then
      return noScalar t.line (.pairValue :: goals) ts.tail
    else g.node false false (.pairValue :: goals) ts
  | .pairValue =>
    match t.kind with
    | .value => g.nodeUnless endsFlowItem false false (.pairEnd :: goals) ts.tail
    | _ => return noScalar t.line (.pairEnd :: goals) ts
  | .pairEnd => return bare t.line .mappingEnd goals ts
  | .flowKey first => g.flowKey first goals ts
  | .flowValue =>
    match t.kind with
    | .value => g.nodeUnless endsFlowPair false false goals ts.tail
    | _ => return noScalar t.line goals ts
  | .flowNoValue => return noScalar t.line goals ts

/-- The events until all goals are reached, and the tokens behind or the line of the failure.
Between two tokens there are at most four events, so four for every token is enough fuel. -/
def run (g : Grammar) : Nat → List Goal → List Token → List NamedEvent × Except Nat (List Token)
  | _, [], ts => ([], .ok ts)
  | 0, _ :: _, _ => ([], .error g.lost)
  | fuel + 1, goal :: goals, ts =>
    match g.step goal goals ts with
    | .error line => ([], .error line)
    | .ok s =>
      let (events, result) := g.run fuel s.goals s.tokens
      (s.event :: events, result)

/-! ### Documents -/

/-- The grammar with the directives before a document, and the tokens behind them. `version` says
that a version has been given. -/
def directives (g : Grammar) (version : Bool) : List Token → Except Nat (Grammar × List Token)
  | [] => .error g.lost
  | t :: ts =>
    match t.kind with
    | .versionDirective major minor =>
      if version || !(major == 1 && (minor == 1 || minor == 2)) then .error t.line
      else g.directives true ts
    | .tagDirective handle start =>
      if (g.handles.lookup handle).isSome then .error t.line
      else { g with handles := (handle, start) :: g.handles }.directives version ts
    | _ => .ok (g, t :: ts)

/-- The grammar with the handles that need no directive. -/
def withDefaults (g : Grammar) : Grammar :=
  { g with
    handles := g.handles ++ [(['!'], ['!']), (['!', '!'], "tag:yaml.org,2002:".toList)] }

end Grammar

/-- The first document of a text. -/
structure Document where
  /-- The events, as far as the document could be read. -/
  events : List NamedEvent
  /-- The line on which it is broken, if it is. -/
  fault : Option Nat
  /-- Whether anything stands behind it. -/
  more : Bool
  deriving Repr, DecidableEq

namespace Document

/-- A document that is broken on a line. -/
def broken (events : List NamedEvent) (line : Nat) : Document :=
  { events, fault := some line, more := false }

/-- Whether anything but marks of ends stands behind a document. -/
def hasMore (ts : List Token) : Bool :=
  match ts.dropWhile (·.kind = .documentEnd) with
  | t :: _ => t.kind ≠ .streamEnd
  | [] => true

/-- The document that a grammar finds for a goal. -/
def read (g : Grammar) (goal : Goal) (ts : List Token) : Document :=
  match g.run (4 * ts.length + 4) [goal] ts with
  | (events, .error line) => .broken events line
  | (events, .ok rest) =>
    match rest with
    | [] => .broken events g.lost
    | _ :: _ => { events, fault := none, more := hasMore rest }

/-- The first document of a run of tokens; a run without any has a document without events. -/
def first (ts : List Token) (lost : Nat) : Document :=
  let g : Grammar := { handles := [], lost }
  match ts with
  | [] => .broken [] lost
  | t :: _ =>
    match t.kind with
    | .streamEnd => { events := [], fault := none, more := false }
    | .documentStart | .versionDirective _ _ | .tagDirective _ _ =>
      match g.directives false ts with
      | .error line => .broken [] line
      | .ok (g, rest) =>
        match rest with
        | [] => .broken [] lost
        | u :: rest =>
          if u.kind = .documentStart then read g.withDefaults .content rest
          else .broken [] u.line
    | _ => read g.withDefaults .root ts

end Document

end JsonWorkbench.Yaml
