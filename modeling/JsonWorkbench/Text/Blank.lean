/-!
# Blanks and Trimming

The white space of the Unicode standard, and the removal of white space from the ends of a text.
Functions on texts come in two forms: one on lists of characters, which is what statements are
about, and one on strings, which only changes the type.

## Main definitions

* `isBlank` — the white-space characters.
* `trimStart`, `trimEnd`, `trim` — a text without the blanks at its start, at its end, or both.
-/

namespace JsonWorkbench.Text

/-- A white-space character. -/
def isBlank (c : Char) : Bool :=
  let n := c.toNat
  (0x09 ≤ n && n ≤ 0x0D) || n == 0x20 || n == 0x85 || n == 0xA0 || n == 0x1680 ||
    (0x2000 ≤ n && n ≤ 0x200A) || n == 0x2028 || n == 0x2029 || n == 0x202F || n == 0x205F ||
    n == 0x3000

/-- The list without the elements at its end that satisfy `p`. -/
def dropEndWhile (p : α → Bool) : List α → List α
  | [] => []
  | x :: xs =>
    match dropEndWhile p xs with
    | [] => if p x then [] else [x]
    | ys => x :: ys

/-- The text without the blanks at its start. -/
def trimStart (cs : List Char) : List Char := cs.dropWhile isBlank

/-- The text without the blanks at its end. -/
def trimEnd (cs : List Char) : List Char := dropEndWhile isBlank cs

/-- The text without the blanks at its two ends. -/
def trim (cs : List Char) : List Char := trimEnd (trimStart cs)

end JsonWorkbench.Text

/-- The string without the white space at its two ends. -/
def JsonWorkbench.trimmed (s : String) : String :=
  String.ofList (JsonWorkbench.Text.trim s.toList)
