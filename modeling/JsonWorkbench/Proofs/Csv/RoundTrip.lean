import JsonWorkbench.Csv
import JsonWorkbench.Proofs.Csv.Record
import JsonWorkbench.Proofs.Keyed
import JsonWorkbench.Proofs.Numeral

/-!
# Tables Are Read Back

The text of a table is the text of its records (`encode_eq`), and these are what is read from it.
With two columns or more no record is blank, so none is skipped (`filter_readRecords`), and each
row is read back with all columns, every cell as what its own text says (`decode_of_records`).
What is left is a matter of single cells: a null, a truth value and an integer are read from their
texts, and a string is if its text says nothing else (`IsCell`).

## Main definitions

* `keysOf`, `completed` — the columns of a table, and its rows with all of them.
* `IsCell` — the values that are read from the text of a cell.
* `FitsTable` — the rows that are read back.

## Main results

* `decode_encode_of_fitsTable` — a table is read back with its rows completed.
-/

namespace JsonWorkbench.Csv

variable {separator : Char} {rows : List Members} {o : Options}

/-! ### Columns -/

/-- The keys of all rows in the order in which they come first. -/
def keysOf (rows : List Members) : List String := (rows.flatMap Members.keys).eraseDups

/-- The columns are the keys. -/
theorem columnsOf_eq (rows : List Members) : columnsOf rows = keysOf rows := by
  have hkeys : ∀ ks : List String, ks.foldl
      (fun columns k => if columns.contains k then columns else columns ++ [k]) [] =
        ks.eraseDups := by
    intro ks
    induction ks using List.reverseRecOn with
    | nil => rfl
    | append_singleton ks k ih => rw [List.foldl_concat, ih, Keyed.eraseDups_concat]
  rw [columnsOf, keysOf, ← hkeys, List.foldl_flatMap]

/-- The rows of a table are its objects. -/
theorem rowMembers_map_object (rows : List Members) (n : Nat) :
    rowMembers n (rows.map .object) = .ok rows := by
  induction rows generalizing n with
  | nil => rfl
  | cons ms rows ih =>
      rw [List.map_cons, rowMembers, ih]
      rfl

/-! ### Records -/

/-- The records of a table with a line of names. -/
def records (rows : List Members) : List Record :=
  (keysOf rows).map String.toList ::
    rows.map fun ms => (keysOf rows).map fun k => cellText (ms.get? k)

/-- The text of a table that has columns is the text of its records. -/
theorem encode_eq (ho : o.headers = true) (h : keysOf rows ≠ []) :
    encode o (.array (rows.map .object)) = .ok (String.ofList
      (Text.dropEndWhile (· == '\n') ((records rows).flatMap (writeRecord o.separator)))) := by
  have hcolumns : (keysOf rows).isEmpty = false := List.isEmpty_eq_false_iff.mpr h
  simp only [encode, rowMembers_map_object, columnsOf_eq, bind, Except.bind, ho, if_true, hcolumns,
    Bool.false_eq_true, if_false]
  rfl

/-- A record of two fields or more is not blank. -/
theorem isBlankRecord_of_two_le {record : Record} (h : 2 ≤ record.length) :
    isBlankRecord record = false := by
  unfold isBlankRecord
  split
  · exact absurd h (by simp)
  · rfl

/-- Every record of a table has a field for each column. -/
theorem length_of_mem_records {record : Record} (h : record ∈ records rows) :
    record.length = (keysOf rows).length := by
  rcases List.mem_cons.mp h with rfl | hmem
  · exact List.length_map ..
  · obtain ⟨ms, -, rfl⟩ := List.mem_map.mp hmem
    exact List.length_map ..

/-- The members of a row with a field for each column. -/
theorem rowObject_map (columns : List String) (f : String → List Char) :
    rowObject columns (columns.map f) = columns.map fun k => (k, cellValue (f k)) := by
  induction columns with
  | nil => rfl
  | cons k columns ih => rw [List.map_cons, rowObject, ih, List.map_cons]

/-- The records of a table of two columns or more are read from its text, and none is skipped: no
record is blank. There is no mark of byte order at the start. -/
theorem filter_readRecords (hs : IsSeparator separator) (htwo : 2 ≤ (keysOf rows).length)
    (hmark : ∀ k, (keysOf rows).head? = some k → k.toList.head? ≠ some '\uFEFF') :
    (readRecords separator (Text.dropEndWhile (· == '\n')
      ((records rows).flatMap (writeRecord separator)))).filter (fun r => !isBlankRecord r) =
        records rows := by
  have hlength : ∀ record ∈ records rows, 2 ≤ record.length := fun record hr => by
    rw [length_of_mem_records hr]
    exact htwo
  have hne : ∀ record ∈ records rows, record ≠ [] := fun record hr =>
    List.ne_nil_of_length_pos (Nat.lt_of_lt_of_le Nat.zero_lt_two (hlength record hr))
  have hunmarked : Unmarked (records rows) := by
    intro content fields others heq
    obtain ⟨hheader, -⟩ := List.cons.inj heq
    obtain ⟨k, columns, hkeys, hk, -⟩ := List.map_eq_cons_iff.mp hheader
    exact hmark k (by rw [hkeys, List.head?_cons]) (by rw [hk, List.head?_cons])
  rw [readRecords_writeRecords hs hne hunmarked, List.filter_eq_self]
  intro record hr
  rw [isBlankRecord_of_two_le (hlength record hr), Bool.not_false]

/-- What is read from the records of a table: its rows with all columns, each cell as what its text
says. The names of the columns have no blanks at their ends. -/
theorem decode_of_records (ho : o.headers = true) (htrim : ∀ k ∈ keysOf rows, trimmed k = k)
    {text : String} (h : (readRecords o.separator text.toList).filter (fun r => !isBlankRecord r) =
      records rows) :
    decode o text = .array (rows.map fun ms => .object
      ((keysOf rows).map fun k => (k, cellValue (cellText (ms.get? k))))) := by
  have hcolumns : ((keysOf rows).map String.toList).map
      (fun field => String.ofList (Text.trim field)) = keysOf rows := by
    rw [List.map_map]
    exact (List.map_congr_left htrim).trans (List.map_id _)
  have hrow : ∀ ms : Members, Members.ofPairs (rowObject (keysOf rows)
      ((keysOf rows).map fun k => cellText (ms.get? k))) =
        (keysOf rows).map fun k => (k, cellValue (cellText (ms.get? k))) := by
    intro ms
    rw [rowObject_map]
    refine Keyed.ofPairs_of_nodup ?_
    rw [List.map_map]
    exact (List.map_id (keysOf rows)).symm ▸ Keyed.nodup_eraseDups _
  rw [decode, h, if_pos ho, records]
  simp only [hcolumns, List.map_map]
  exact congrArg Value.array (List.map_congr_left fun ms _ => congrArg Value.object (hrow ms))

/-! ### Cells -/

/-- A value that is read from the text of its cell: a string is if its text says nothing else. -/
inductive IsCell : Value → Prop
  /-- The null value. -/
  | null : IsCell .null
  /-- A truth value. -/
  | bool (b : Bool) : IsCell (.bool b)
  /-- An integer of 64 bits. -/
  | integer (n : Int) (h : Number.least ≤ n ∧ n ≤ Number.greatest) : IsCell (.int n)
  /-- A string that is read from a cell with its text. -/
  | string (s : String) (h : cellValue s.toList = .string s) : IsCell (.string s)

/-- **Such a value is read from the text of its cell.** -/
theorem IsCell.cellValue_cellText {v : Value} (h : IsCell v) :
    cellValue (cellText (some v)) = v := by
  cases h with
  | null => rfl
  | bool b => cases b <;> rfl
  | integer n h =>
      have hne : (toString n).toList.isEmpty = false := by
        rw [List.isEmpty_eq_false_iff]
        exact toString_ne_nil n
      have htext : cellText (some (.int n)) = (toString n).toList := rfl
      rw [htext, cellValue, trim_toString]
      simp only [hne, Bool.false_eq_true, if_false, String.ofList_toList, coerceNumber?_toString h]
  | string s h => exact h

/-- The rows of a table with all columns: a missing member is null. -/
def completed (rows : List Members) : List Members :=
  rows.map fun ms => (keysOf rows).map fun k => (k, (ms.get? k).getD .null)

/-- The rows that a table of two columns or more is read back as. -/
structure FitsTable (rows : List Members) : Prop where
  /-- There are two columns or more. -/
  two_le : 2 ≤ (keysOf rows).length
  /-- The names of the columns have no blanks at their ends. -/
  trimmed : ∀ k ∈ keysOf rows, trimmed k = k
  /-- The name of the first column begins with no mark of byte order. -/
  unmarked : ∀ k, (keysOf rows).head? = some k → k.toList.head? ≠ some '\uFEFF'
  /-- Every cell is read from its text. -/
  cells : ∀ ms ∈ rows, ∀ k v, (k, v) ∈ ms → IsCell v

/-- Every cell of such a table is read from its text, and a missing one is null. -/
theorem FitsTable.cellValue_cellText (h : FitsTable rows) {ms : Members} (hms : ms ∈ rows)
    (k : String) : cellValue (cellText (ms.get? k)) = (ms.get? k).getD .null := by
  cases hget : ms.get? k with
  | none => rfl
  | some v => exact (h.cells ms hms k v (Keyed.mem_of_get? hget)).cellValue_cellText

/-- **A table is read back with its rows completed**, whatever stands between its fields. -/
theorem decode_encode_of_fitsTable (ho : o.headers = true) (hs : IsSeparator o.separator)
    (h : FitsTable rows) :
    ∃ text, encode o (.array (rows.map .object)) = .ok text ∧
      decode o text = .array ((completed rows).map .object) := by
  have hkeys : keysOf rows ≠ [] :=
    List.ne_nil_of_length_pos (Nat.lt_of_lt_of_le Nat.zero_lt_two h.two_le)
  refine ⟨_, encode_eq ho hkeys, ?_⟩
  have hread := filter_readRecords hs h.two_le h.unmarked
  rw [decode_of_records ho h.trimmed (by rw [String.toList_ofList, hread]), completed, List.map_map]
  refine congrArg Value.array (List.map_congr_left fun ms hms => congrArg Value.object ?_)
  exact List.map_congr_left fun k _ => congrArg (k, ·) (h.cellValue_cellText hms k)

/-- Rows with texts full of marks, and with different keys. -/
def ledger : List Members :=
  [[("note", .string " a;b \"c\"\r\n"), ("n", .int (-7))], [],
    [("", .bool false), ("n", .null), ("note", .string ";")]]

/-- The texts of the cells and the order of the keys are read back. -/
theorem decode_encode_ledger :
    (IsSeparator ';' ∧ FitsTable ledger) ∧
      ∃ text, encode ⟨';', true⟩ (.array (ledger.map .object)) = .ok text ∧
        decode ⟨';', true⟩ text = .array ((completed ledger).map .object) := by
  have hs : IsSeparator ';' := ⟨by decide, by decide, by decide⟩
  have hkeys : keysOf ledger = ["note", "n", ""] := by rfl
  have htext : IsCell (.string " a;b \"c\"\r\n") ∧ IsCell (.string ";") :=
    ⟨.string _ (by rfl), .string _ (by rfl)⟩
  have hfits : FitsTable ledger := by
    refine ⟨by rw [hkeys]; decide, by rw [hkeys]; decide, by rw [hkeys]; decide, ?_⟩
    simp only [ledger, List.mem_cons, List.not_mem_nil, or_false]
    rintro ms (rfl | rfl | rfl) k v hmem
    · simp only [List.mem_cons, Prod.mk.injEq, List.not_mem_nil, or_false] at hmem
      rcases hmem with ⟨-, rfl⟩ | ⟨-, rfl⟩
      exacts [htext.1, .integer _ (by decide)]
    · cases hmem
    · simp only [List.mem_cons, Prod.mk.injEq, List.not_mem_nil, or_false] at hmem
      rcases hmem with ⟨-, rfl⟩ | ⟨-, rfl⟩ | ⟨-, rfl⟩
      exacts [.bool _, .null, htext.2]
  exact ⟨⟨hs, hfits⟩, decode_encode_of_fitsTable rfl hs hfits⟩

end JsonWorkbench.Csv
