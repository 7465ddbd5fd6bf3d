import JsonWorkbench.Proofs.Csv.RoundTrip
import Mathlib.Data.List.Basic

/-!
# The Number of Rows

How many rows are read from the text of a table, whatever its cells are. The reader gives back all
records (`finish_writeRecords`), but for a mark of byte order at the start of the text, which is not
read (`leading`). Then the blank records go, those of a single field of blanks
(`filter_readRecords_writeRecords`), and the first that is left names the columns.

So no row goes as long as there are two columns. In a table of a single column, a missing cell, a
null and a string of blanks are blank records, with quotes or without; and if the name of the
column is blank, the line of names goes, and the first row that is left is read in its place.

## Main definitions

* `leading` — a field as it is read at the start of a text.
* `LosesRows` — the tables of a single column that has blanks.

## Main results

* `length_decode_encode` — all rows are read back exactly if a table has no such column.
-/

namespace JsonWorkbench.Csv

variable {separator : Char} {rows : List Members} {o : Options}

/-! ### The start of a text -/

/-- A field as it is read at the start of a text: a mark of byte order is skipped, unless it is in
quotes. -/
def leading (separator : Char) : List Char → List Char
  | '\uFEFF' :: content =>
    if content.any (needsQuotes separator) then '\uFEFF' :: content else content
  | field => field

/-- Line feeds at the start of a text are skipped. -/
theorem foldl_step_lineFeed (cs : List Char) :
    (Text.dropEndWhile (· == '\n') ('\n' :: cs)).foldl (Reader.step separator) .start =
      (Text.dropEndWhile (· == '\n') cs).foldl (Reader.step separator) .start := by
  rw [Text.dropEndWhile]
  split
  · next hnil => simp [hnil]
  · rfl

/-- A mark of byte order needs no quotes. -/
theorem needsQuotes_mark (hs : IsSeparator separator) : needsQuotes separator '\uFEFF' = false := by
  have hne : '\uFEFF' ≠ separator := by
    rintro rfl
    exact absurd hs.ascii (by decide)
  simp [needsQuotes, hne, endsLine]

/-- Without quotes, a record that begins with a mark of byte order is written as the mark and the
rest of the record, unless nothing is left. -/
theorem writeRecord_mark (hs : IsSeparator separator) {content : List Char}
    (hplain : content.any (needsQuotes separator) = false) {fields : List (List Char)}
    (h : content :: fields ≠ [[]]) :
    writeRecord separator (('\uFEFF' :: content) :: fields) =
      '\uFEFF' :: writeRecord separator (content :: fields) := by
  have hmark : writeField separator ('\uFEFF' :: content) =
      '\uFEFF' :: writeField separator content := by
    simp [writeField, needsQuotes_mark hs, hplain]
  rw [writeRecord_eq separator (List.cons_ne_nil _ _),
    writeRecord_eq separator (List.cons_ne_nil _ _), recordText_cons separator (by simp),
    recordText_cons separator h, hmark]
  rfl

/-- **The records that are read from the text of records** and are not blank: the first is read
without its mark of byte order, and the others as they are. -/
theorem filter_readRecords_writeRecords (hs : IsSeparator separator) (field : List Char)
    (fields : List (List Char)) {others : List Record} (h : ∀ record ∈ others, record ≠ []) :
    (readRecords separator (Text.dropEndWhile (· == '\n')
      (((field :: fields) :: others).flatMap (writeRecord separator)))).filter
        (fun r => !isBlankRecord r) =
      ((leading separator field :: fields) :: others).filter fun r => !isBlankRecord r := by
  have hall (field : List Char) : ∀ record ∈ (field :: fields) :: others, record ≠ [] :=
    List.forall_mem_cons.mpr ⟨List.cons_ne_nil _ _, h⟩
  have hread (cs : List Char) : readRecords separator
      (Text.dropEndWhile (· == '\n') ('\uFEFF' :: cs)) =
        ((Text.dropEndWhile (· == '\n') cs).foldl (Reader.step separator) .start).finish := by
    rw [Text.dropEndWhile_cons (by decide)]
    rfl
  by_cases hmark : ∃ content, field = '\uFEFF' :: content ∧
      content.any (needsQuotes separator) = false
  · obtain ⟨content, rfl, hplain⟩ := hmark
    have hleading : leading separator ('\uFEFF' :: content) = content := by
      simp [leading, hplain]
    rw [hleading]
    by_cases hempty : content :: fields = [[]]
    · -- the mark stands on a line of its own, and what is left of the line is no record
      obtain ⟨rfl, rfl⟩ := List.cons.inj hempty
      have hline : writeRecord separator [['\uFEFF']] = ['\uFEFF', '\n'] := by
        simp [writeRecord, writeField, needsQuotes_mark hs]
      rw [List.flatMap_cons, hline, List.cons_append, List.singleton_append, hread,
        foldl_step_lineFeed, finish_writeRecords hs h]
      rfl
    · rw [List.flatMap_cons, writeRecord_mark hs hplain hempty, List.cons_append, hread,
        ← List.flatMap_cons, finish_writeRecords hs (hall content)]
  · have hleading : leading separator field = field := by
      unfold leading
      split
      · next content =>
          exact if_pos (Bool.not_eq_false _ ▸ fun hplain => hmark ⟨content, rfl, hplain⟩)
      · rfl
    rw [hleading, readRecords_of_ne_cons, finish_writeRecords hs (hall field)]
    intro rest htext
    obtain ⟨content, fields', others', heq, hplain⟩ := exists_mark hs (hall field) htext
    obtain ⟨rfl, -⟩ := List.cons.inj (List.cons.inj heq).1
    rw [List.any_cons, Bool.or_eq_false_iff] at hplain
    exact hmark ⟨content, rfl, hplain.2⟩

/-! ### Rows -/

/-- A blank record is a single field of blanks. -/
theorem isBlankRecord_iff {record : Record} :
    isBlankRecord record = true ↔ ∃ field, record = [field] ∧ Text.trim field = [] := by
  unfold isBlankRecord
  split
  · simp
  · next hne =>
      refine ⟨nofun, ?_⟩
      rintro ⟨field, rfl, -⟩
      exact absurd rfl (hne field)

/-- Behind the line of names, every record is a row. -/
theorem exists_decode (ho : o.headers = true) (text : String) :
    ∃ out, decode o text = .array out ∧ out.length =
      ((readRecords o.separator text.toList).filter fun r => !isBlankRecord r).length - 1 := by
  rw [decode, if_pos ho]
  split
  · next hnil => exact ⟨[], rfl, by rw [hnil]; rfl⟩
  · next header body hcons => exact ⟨_, rfl, by rw [hcons, List.length_map]; rfl⟩

/-- A table of a single column, of which the name or a cell is blank. A cell is blank if it is
missing, a null or a string of blanks. -/
def LosesRows (separator : Char) (rows : List Members) : Prop :=
  ∃ k, keysOf rows = [k] ∧ (Text.trim (leading separator k.toList) = [] ∨
    ∃ ms ∈ rows, Text.trim (cellText (ms.get? k)) = [])

/-- Some record of a table is blank exactly if the table has a single column with blanks. -/
theorem exists_isBlankRecord_iff {k : String} {ks : List String} (hkeys : keysOf rows = k :: ks) :
    (∃ record ∈ (leading separator k.toList :: ks.map String.toList) ::
      rows.map fun ms => (keysOf rows).map fun k => cellText (ms.get? k),
        isBlankRecord record = true) ↔ LosesRows separator rows := by
  simp only [List.exists_mem_cons_iff, List.mem_map, exists_exists_and_eq_and, hkeys, LosesRows,
    isBlankRecord_iff, List.map_cons, List.cons.injEq, List.map_eq_nil_iff]
  constructor
  · rintro (⟨field, ⟨rfl, rfl⟩, hblank⟩ | ⟨ms, hms, field, ⟨rfl, rfl⟩, hblank⟩)
    · exact ⟨k, ⟨rfl, rfl⟩, .inl hblank⟩
    · exact ⟨k, ⟨rfl, rfl⟩, .inr ⟨ms, hms, hblank⟩⟩
  · rintro ⟨k', ⟨rfl, rfl⟩, hblank | ⟨ms, hms, hblank⟩⟩
    · exact .inl ⟨_, ⟨rfl, rfl⟩, hblank⟩
    · exact .inr ⟨ms, hms, _, ⟨rfl, rfl⟩, hblank⟩

/-- **All rows of a table are read back**, exactly if it has two columns or more, or one without
blanks. -/
theorem length_decode_encode (ho : o.headers = true) (hs : IsSeparator o.separator)
    (h : keysOf rows ≠ []) :
    ∃ text out, encode o (.array (rows.map .object)) = .ok text ∧ decode o text = .array out ∧
      (out.length = rows.length ↔ ¬LosesRows o.separator rows) := by
  obtain ⟨k, ks, hkeys⟩ := List.exists_cons_of_ne_nil h
  obtain ⟨out, hdecode, hlength⟩ := exists_decode ho (String.ofList
    (Text.dropEndWhile (· == '\n') ((records rows).flatMap (writeRecord o.separator))))
  refine ⟨_, out, encode_eq ho h, hdecode, ?_⟩
  have hbody : ∀ record ∈ rows.map fun ms => (keysOf rows).map fun k => cellText (ms.get? k),
      record ≠ [] := by
    simp [h]
  have hrows : 0 < rows.length := by
    rw [List.length_pos_iff]
    rintro rfl
    exact h rfl
  rw [String.toList_ofList, records, hkeys, List.map_cons, ← hkeys,
    filter_readRecords_writeRecords hs _ _ hbody] at hlength
  rw [← exists_isBlankRecord_iff hkeys]
  generalize hall : (leading o.separator k.toList :: ks.map String.toList) ::
    (rows.map fun ms => (keysOf rows).map fun k => cellText (ms.get? k)) = all at hlength ⊢
  have hcount : all.length = rows.length + 1 := by
    rw [← hall, List.length_cons, List.length_map]
  have hle := List.length_filter_le (fun r => !isBlankRecord r) all
  calc out.length = rows.length
      ↔ (all.filter fun r => !isBlankRecord r).length = all.length := by omega
    _ ↔ ∀ record ∈ all, (!isBlankRecord record) = true := List.length_filter_eq_length_iff
    _ ↔ ¬∃ record ∈ all, isBlankRecord record = true := by simp

/-- Rows without a cell and with nothing but a line feed, in two columns. -/
def hollow : List Members := [[("a", .null)], [], [("b", .string "\n")]]

/-- None of them is lost. -/
theorem length_decode_encode_hollow :
    (IsSeparator ',' ∧ keysOf hollow ≠ [] ∧ ¬LosesRows ',' hollow) ∧
      ∃ text out, encode {} (.array (hollow.map .object)) = .ok text ∧
        decode {} text = .array out ∧ (out.length = hollow.length ↔ ¬LosesRows ',' hollow) := by
  have hs : IsSeparator ',' := ⟨by decide, by decide, by decide⟩
  have hkeys : keysOf hollow = ["a", "b"] := by rfl
  have hne : keysOf hollow ≠ [] := by simp [hkeys]
  have hkeeps : ¬LosesRows ',' hollow := by
    rintro ⟨k, hone, -⟩
    simp [hkeys] at hone
  exact ⟨⟨hs, hne, hkeeps⟩, length_decode_encode rfl hs hne⟩

/-- A null in a single column is written as a record of its own, and no row is read from it. -/
theorem not_forall_length_decode_encode :
    ¬∀ rows : List Members, keysOf rows ≠ [] →
      ∃ text out, encode {} (.array (rows.map .object)) = .ok text ∧
        decode {} text = .array out ∧ out.length = rows.length := by
  intro h
  have hkeys : keysOf [[("a", .int 1)], [("a", .null)]] = ["a"] := by rfl
  obtain ⟨text, out, hencode, hdecode, hlength⟩ :=
    h [[("a", .int 1)], [("a", .null)]] (by simp [hkeys])
  have htext : encode {} (.array ([[("a", .int 1)], [("a", .null)]].map .object)) =
      .ok "a\n1\n\"\"" := by rfl
  obtain rfl : "a\n1\n\"\"" = text := Except.ok.inj (htext.symm.trans hencode)
  have hrow : decode {} "a\n1\n\"\"" = .array [.object [("a", .int 1)]] := by rfl
  obtain rfl : [.object [("a", .int 1)]] = out := Value.array.inj (hrow.symm.trans hdecode)
  exact absurd hlength (by decide)

end JsonWorkbench.Csv
