import JsonWorkbench.Json.Printer
import JsonWorkbench.Json.Reader
import JsonWorkbench.Error

/-!
# Counting Values

How many values of each kind a document holds, and how deep it is.

## Main definitions

* `Census`, `census` — the counts.
* `textCensus` — the counts of a text, with its size before and after compaction.
-/

namespace JsonWorkbench

/-- Counts of the values of a document. -/
structure Census where
  /-- The objects. -/
  objects : Nat
  /-- The arrays. -/
  arrays : Nat
  /-- The texts. -/
  strings : Nat
  /-- The numbers. -/
  numbers : Nat
  /-- The truth values. -/
  booleans : Nat
  /-- The nulls. -/
  nulls : Nat
  /-- The greatest depth of a value; that of the root is 0. -/
  maxDepth : Nat
  /-- The bytes of the text, if there was one. -/
  size : Option Nat
  /-- The bytes of the compact text, if there was a text. -/
  minifiedSize : Option Nat
  deriving Repr, DecidableEq

namespace Census

/-- Nothing counted. -/
def zero : Census := ⟨0, 0, 0, 0, 0, 0, 0, none, none⟩

/-- The counts with one more value at a depth. -/
def count (c : Census) (depth : Nat) (kind : Kind) : Census :=
  let c := { c with maxDepth := max c.maxDepth depth }
  match kind with
  | .null => { c with nulls := c.nulls + 1 }
  | .boolean => { c with booleans := c.booleans + 1 }
  | .number => { c with numbers := c.numbers + 1 }
  | .string => { c with strings := c.strings + 1 }
  | .array => { c with arrays := c.arrays + 1 }
  | .object => { c with objects := c.objects + 1 }

/-- All values together. -/
def total (c : Census) : Nat :=
  c.objects + c.arrays + c.strings + c.numbers + c.booleans + c.nulls

end Census

mutual

/-- The counts with the values of a document added that stands at a depth. -/
def countValues (c : Census) (depth : Nat) : Value → Census
  | .array vs => countItems (c.count depth .array) (depth + 1) vs
  | .object ms => countMembers (c.count depth .object) (depth + 1) ms
  | .null => c.count depth .null
  | .bool _ => c.count depth .boolean
  | .number _ => c.count depth .number
  | .string _ => c.count depth .string

/-- The counts with the values of items added. -/
def countItems (c : Census) (depth : Nat) : List Value → Census
  | [] => c
  | v :: vs => countItems (countValues c depth v) depth vs

/-- The counts with the values of members added. -/
def countMembers (c : Census) (depth : Nat) : List (String × Value) → Census
  | [] => c
  | (_, v) :: ms => countMembers (countValues c depth v) depth ms

end

/-- The counts of a document. -/
def census (v : Value) : Census := countValues .zero 0 v

/-- The counts of a document with the sizes of the text that it was read from. -/
def censusOfText (text : String) (v : Value) : Census :=
  { census v with
    size := some text.utf8ByteSize
    minifiedSize := some (Json.minify v).utf8ByteSize }

/-- The counts of a text. -/
def textCensus (text : String) : Except Error Census :=
  ((Json.parse text).mapError .parse).map (censusOfText text)

/-- Counts as a document. -/
def Census.toValue (c : Census) : Value :=
  let part (name : String) (n : Nat) : String × Value := (name, .int n)
  .object
    ([part "objects" c.objects, part "arrays" c.arrays, part "strings" c.strings,
      part "numbers" c.numbers, part "booleans" c.booleans, part "nulls" c.nulls,
      part "max_depth" c.maxDepth] ++
      (c.size.map (part "size")).toList ++ (c.minifiedSize.map (part "minified_size")).toList)

end JsonWorkbench
