/-!
# Searching in Texts

Cutting a text at characters or at occurrences of another text, and replacing occurrences.
Occurrences are taken from the left and do not overlap. All functions recurse on the text; a
counter of characters still to be skipped stands for "go on behind the occurrence".

## Main definitions

* `pieces` — the text between the characters of a class.
* `splitText` — the text between the occurrences of a pattern.
* `replaceText` — the text with every occurrence of a pattern replaced.
* `cutAt` — the text before and behind the first occurrence of a pattern.
-/

namespace JsonWorkbench.Text

/-- A list of texts with a character put in front of the first of them. -/
def consFirst (c : Char) : List (List Char) → List (List Char)
  | [] => [[c]]
  | w :: ws => (c :: w) :: ws

/-- The texts between the characters that satisfy `p`, of which there is at least one. -/
def pieces (p : Char → Bool) : List Char → List (List Char)
  | [] => [[]]
  | c :: cs => if p c then [] :: pieces p cs else consFirst c (pieces p cs)

/-- The work of `splitText`, with the number of characters still to be skipped. -/
def splitTextFrom (pattern : List Char) : Nat → List Char → List (List Char)
  | _, [] => [[]]
  | skip + 1, _ :: cs => splitTextFrom pattern skip cs
  | 0, c :: cs =>
    if pattern.isPrefixOf (c :: cs) then
      [] :: splitTextFrom pattern (pattern.length - 1) cs
    else
      consFirst c (splitTextFrom pattern 0 cs)

/-- The texts between the occurrences of a pattern, which is not empty. -/
def splitText (pattern cs : List Char) : List (List Char) :=
  splitTextFrom pattern 0 cs

/-- The work of `replaceText`, with the number of characters still to be skipped. -/
def replaceTextFrom (pattern by' : List Char) : Nat → List Char → List Char
  | _, [] => []
  | skip + 1, _ :: cs => replaceTextFrom pattern by' skip cs
  | 0, c :: cs =>
    if pattern.isPrefixOf (c :: cs) then
      by' ++ replaceTextFrom pattern by' (pattern.length - 1) cs
    else
      c :: replaceTextFrom pattern by' 0 cs

/-- The text with every occurrence of a pattern, which is not empty, replaced. -/
def replaceText (pattern by' cs : List Char) : List Char :=
  replaceTextFrom pattern by' 0 cs

/-- The text before the first occurrence of a pattern, and the text behind it. -/
def cutAt (pattern : List Char) : List Char → Option (List Char × List Char)
  | [] => if pattern.isEmpty then some ([], []) else none
  | c :: cs =>
    if pattern.isPrefixOf (c :: cs) then some ([], (c :: cs).drop pattern.length)
    else (cutAt pattern cs).map fun (before, behind) => (c :: before, behind)

/-- Whether a pattern occurs in the text. -/
def hasText (pattern cs : List Char) : Bool := (cutAt pattern cs).isSome

/-- What follows a given start of the text, if the text has that start. -/
def afterStart? (start cs : List Char) : Option (List Char) :=
  if start.isPrefixOf cs then some (cs.drop start.length) else none

end JsonWorkbench.Text
