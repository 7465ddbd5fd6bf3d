import JsonWorkbench.Yaml.CoreScalar
import JsonWorkbench.Yaml.Event
import JsonWorkbench.Yaml.Token.Lexer

/-!
# Reading YAML

A text is one document. A reference stands for a copy of its node; how often references may be
followed is bounded by the length of the document, and how deep containers may be nested by a
constant, so a small text cannot ask for too much.

Keys are the texts of scalars, whatever their type. Of a repeated key the first place and the last
value count.

## Main definitions

* `Fault` — why a text cannot be read: the line of the first failure, if it has one.
* `Linked`, `link` — a document whose references are places.
* `readNode` — the value of a node.
* `read` — the value of a text.
-/

namespace JsonWorkbench.Yaml

/-- The line on which a text fails; a text of several documents and one with too many references
have none. -/
structure Fault where
  /-- The number of the line. -/
  line : Option Nat
  deriving Repr, DecidableEq

/-! ### References -/

/-- The names that have been given to nodes. A name gets the number of names that were known
before; a name given once more gets a number that the next new name gets too. -/
structure Anchors where
  /-- The numbers of the names. -/
  numbers : List (List Char × Nat)
  /-- The places of the numbers, the latest first. -/
  places : List (Nat × Nat)

/-- The names with one more, given at a place. -/
def Anchors.add (a : Anchors) (name : List Char) (place : Nat) : Anchors :=
  let number := a.numbers.length
  { numbers := (name, number) :: a.numbers.filter (·.1 ≠ name)
    places := (number, place) :: a.places }

/-- A document whose references are numbers of names. -/
structure Linked where
  /-- The events. -/
  events : List (Event Nat)
  /-- The places of the numbers. -/
  places : List (Nat × Nat)
  /-- The line on which the document is broken, if it is. -/
  fault : Option Nat

/-- An event that is no reference, with the same content. -/
def Event.withTargets (e : NamedEvent) (kind : EventKind Nat) : Event Nat :=
  { line := e.line, kind, anchor := e.anchor, tag := e.tag }

/-- The document with its references looked up among the names before them; a name that is not
known breaks it. -/
def link (fault : Option Nat) : Anchors → Nat → List NamedEvent → Linked
  | a, _, [] => { events := [], places := a.places, fault }
  | a, place, e :: es =>
    let after := match e.anchor with
      | some name => a.add name place
      | none => a
    let go (kind : EventKind Nat) : Linked :=
      let linked := link fault after (place + 1) es
      { linked with events := e.withTargets kind :: linked.events }
    match e.kind with
    | .alias name =>
      match a.numbers.lookup name with
      | some number => go (.alias number)
      | none => { events := [], places := a.places, fault := some e.line }
    | .scalar text plain => go (.scalar text plain)
    | .sequenceStart => go .sequenceStart
    | .sequenceEnd => go .sequenceEnd
    | .mappingStart => go .mappingStart
    | .mappingEnd => go .mappingEnd

/-- The events from the place of a number on. -/
def Linked.target (d : Linked) (number : Nat) : List (Event Nat) :=
  match d.places.lookup number with
  | some place => d.events.drop place
  | none => []

/-! ### Values -/

/-- The failure on a line. -/
def onLine (line : Nat) : Except Fault α := .error { line := some line }

/-- A value, the number of references that may still be followed, and the events behind. -/
abbrev Reading (α : Type) := Except Fault (α × Nat × List (Event Nat))

/-- Whether a type is known only to the text itself; no value has such a type. -/
def isLocalTag (tag : Option (List Char)) : Bool := (tag.bind List.head?) == some '!'

/-- The value of a scalar. -/
def scalarValue (e : Event Nat) (text : List Char) (plain : Bool) : Except Fault Value :=
  let value? := match e.tag with
    | some tag => typedValue? tag text
    | none => if plain then plainValue? text else some (.string (String.ofList text))
  match value? with
  | some v => .ok v
  | none => onLine e.line

/-- A key: a scalar, or a reference to one. -/
def readKey (d : Linked) (jumps : Nat) : List (Event Nat) → Reading String
  | [] => .error { line := d.fault }
  | e :: es =>
    match e.kind with
    | .scalar text _ => .ok (String.ofList text, jumps, es)
    | .alias number =>
      if jumps = 0 then .error { line := none }
      else
        match d.target number with
        | [] => .error { line := d.fault }
        | target :: _ =>
          match target.kind with
          | .scalar text _ => .ok (String.ofList text, jumps - 1, es)
          | _ => onLine target.line
    | _ => onLine e.line

/-- The greatest number of containers around a value. -/
def maxNesting : Nat := 128

mutual

/-- The value of the node that is next. `room` is the number of containers that may still be
opened. -/
def readNode (d : Linked) : Nat → Nat → Nat → List (Event Nat) → Reading Value
  | 0, _, _, _ => .error { line := none }
  | _, _, _, [] => .error { line := d.fault }
  | fuel + 1, room, jumps, e :: es =>
    match e.kind with
    | .alias number =>
      if jumps = 0 then .error { line := none }
      else
        (readNode d fuel room (jumps - 1) (d.target number)).map fun (v, jumps, _) =>
          (v, jumps, es)
    | kind =>
      if isLocalTag e.tag then onLine e.line
      else
        match kind with
        | .scalar text plain => (scalarValue e text plain).map (·, jumps, es)
        | .sequenceStart =>
          match room with
          | 0 => onLine e.line
          | room + 1 => (readItems d fuel room jumps es).map fun (vs, rest) => (.array vs, rest)
        | .mappingStart =>
          match room with
          | 0 => onLine e.line
          | room + 1 =>
            (readPairs d fuel room jumps es).map fun (pairs, rest) =>
              (.object (Members.ofPairs pairs), rest)
        | _ => onLine e.line
termination_by structural fuel => fuel

/-- The items of a sequence, up to its end. -/
def readItems (d : Linked) : Nat → Nat → Nat → List (Event Nat) → Reading (List Value)
  | 0, _, _, _ => .error { line := none }
  | _, _, _, [] => .error { line := d.fault }
  | fuel + 1, room, jumps, e :: es =>
    match e.kind with
    | .sequenceEnd => .ok ([], jumps, es)
    | _ =>
      match readNode d fuel room jumps (e :: es) with
      | .error f => .error f
      | .ok (v, jumps, rest) =>
        (readItems d fuel room jumps rest).map fun (vs, behind) => (v :: vs, behind)
termination_by structural fuel => fuel

/-- The pairs of a mapping, up to its end. -/
def readPairs (d : Linked) : Nat → Nat → Nat → List (Event Nat) → Reading (List (String × Value))
  | 0, _, _, _ => .error { line := none }
  | _, _, _, [] => .error { line := d.fault }
  | fuel + 1, room, jumps, e :: es =>
    match e.kind with
    | .mappingEnd => .ok ([], jumps, es)
    | _ =>
      match readKey d jumps (e :: es) with
      | .error f => .error f
      | .ok (k, jumps, rest) =>
        match readNode d fuel room jumps rest with
        | .error f => .error f
        | .ok (v, jumps, rest) =>
          (readPairs d fuel room jumps rest).map fun (pairs, behind) => ((k, v) :: pairs, behind)
termination_by structural fuel => fuel

end

/-- The value of a document. A chain of calls passes each event at most once for every container
around it and every reference followed in between, which bounds the fuel. -/
def Document.value (doc : Document) : Except Fault Value := do
  let d := link doc.fault { numbers := [], places := [] } 0 doc.events
  let (v, _) ←
    match d.events, d.fault with
    | [], none => pure (.null, 0, [])
    | events, _ =>
      let n := events.length
      readNode d (2 * (maxNesting + 2) * (n + 2)) maxNesting (100 * n) events
  if d.fault.isSome then throw { line := d.fault }
  else if doc.more then throw { line := none }
  else return v

/-- The value of a text. -/
def read (cs : List Char) : Except Fault Value :=
  let run := scan cs
  (Document.first run.tokens (run.fault.getD 1)).value

end JsonWorkbench.Yaml
