import JsonWorkbench.Regex.CharSet

/-!
# Regular Expressions

Regular expressions without captures and look-around, and the places of a text where a match of
one can end. Matching works on sets of positions: an expression maps the positions where it may
start to those where it may end. A repetition is iterated as long as it finds new positions, of
which there are no more than the text has characters, so matching never backtracks.

## Main definitions

* `Look` — the conditions on a position; `Regex` — the expressions.
* `Regex.ends` — the ends of the matches that start at one of a set of positions.
* `Regex.isMatch` — whether a text has a match anywhere.
-/

namespace JsonWorkbench

namespace Regex

/-- A condition on a position between two characters. -/
inductive Look where
  | textStart
  | textEnd
  | lineStart
  | lineEnd
  | lineStartCrlf
  | lineEndCrlf
  | wordBoundary
  | notWordBoundary
  | wordStart
  | wordEnd
  | wordStartHalf
  | wordEndHalf
  deriving Repr, DecidableEq

end Regex

/-- A regular expression. -/
inductive Regex where
  /-- The empty text. -/
  | empty
  /-- One character of a set. -/
  | char (s : Regex.CharSet)
  /-- The empty text at a position with a condition; the set holds the characters of words. -/
  | look (l : Regex.Look) (word : Regex.CharSet)
  /-- One expression and then another. -/
  | seq (a b : Regex)
  /-- Either of two expressions. -/
  | alt (a b : Regex)
  /-- An expression at least `least` times, and at most `most` times if there is a bound. -/
  | repeat (a : Regex) (least : Nat) (most : Option Nat)

namespace Regex

/-- A set of positions in a text: the flag at place `i` says whether `i` is in the set. -/
abbrev Positions := List Bool

/-- The union of two sets of positions. -/
def join (p q : Positions) : Positions := List.zipWith (· || ·) p q

/-- Whether the condition holds between two characters; `none` stands for an end of the text. -/
def Look.holds (l : Look) (word : CharSet) (before after : Option Char) : Bool :=
  let isWord (c : Option Char) : Bool := c.any word.contains
  match l with
  | .textStart => before.isNone
  | .textEnd => after.isNone
  | .lineStart => before.isNone || before == some '\n'
  | .lineEnd => after.isNone || after == some '\n'
  | .lineStartCrlf =>
    before.isNone || before == some '\n' || (before == some '\r' && after != some '\n')
  | .lineEndCrlf =>
    after.isNone || after == some '\r' || (after == some '\n' && before != some '\r')
  | .wordBoundary => isWord before != isWord after
  | .notWordBoundary => isWord before == isWord after
  | .wordStart => !isWord before && isWord after
  | .wordEnd => isWord before && !isWord after
  | .wordStartHalf => !isWord before
  | .wordEndHalf => !isWord after

/-- The positions that satisfy a condition, of a set over the text that remains behind the
character `before`. -/
def lookAt (l : Look) (word : CharSet) (before : Option Char) : List Char → Positions → Positions
  | [], p :: _ => [p && l.holds word before none]
  | c :: cs, p :: ps => (p && l.holds word before (some c)) :: lookAt l word (some c) cs ps
  | _, [] => []

/-- The positions one character behind those of a set where a character of `s` stands. `here` says
whether the position at hand is such a one. -/
def stepOver (s : CharSet) (here : Bool) : List Char → Positions → Positions
  | c :: cs, p :: ps => here :: stepOver s (p && s.contains c) cs ps
  | [], _ :: _ => [here]
  | _, [] => []

/-- What an iterated map reaches: the map is applied as long as it adds positions. -/
def closure (f : Positions → Positions) : Nat → Positions → Positions
  | 0, p => p
  | fuel + 1, p =>
    let q := join p (f p)
    if q == p then p else closure f fuel q

/-- What a map reaches when it is applied at most `n` times. -/
def atMost (f : Positions → Positions) : Nat → Positions → Positions
  | 0, p => p
  | n + 1, p =>
    let q := f p
    if q.any id then join p (atMost f n q) else p

/-- A map applied `n` times. -/
def times (f : Positions → Positions) : Nat → Positions → Positions
  | 0, p => p
  | n + 1, p => if p.any id then times f n (f p) else p

/-- The positions where a match can end that starts at one of the given positions. -/
def ends (text : List Char) : Regex → Positions → Positions
  | .empty, p => p
  | .char s, p => stepOver s false text p
  | .look l word, p => lookAt l word none text p
  | .seq a b, p => b.ends text (a.ends text p)
  | .alt a b, p => join (a.ends text p) (b.ends text p)
  | .repeat a least none, p =>
    closure (a.ends text) (text.length + 1) (times (a.ends text) least p)
  | .repeat a least (some most), p =>
    atMost (a.ends text) (most - least) (times (a.ends text) least p)

/-- Whether a match of the expression occurs in the text. -/
def isMatch (r : Regex) (text : String) : Bool :=
  let cs := text.toList
  (r.ends cs (List.replicate (cs.length + 1) true)).any id

end Regex

end JsonWorkbench
