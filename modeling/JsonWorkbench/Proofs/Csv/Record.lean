import JsonWorkbench.Csv.Record
import JsonWorkbench.Proofs.Text

/-!
# Reading Records

The reader goes through a text character by character. Behind a field, whether it is in quotes or
not, it stands in a state in which a separator ends the field and a line feed the record
(`HasRead`); this is what carries the induction on the fields of a record and then on the records.

There is one exception. An empty field at the start of a record leaves the reader before the
record, and a line feed there says nothing. This is why a record that is a single empty field is
written with quotes.

The line feeds at the end of a text are no part of a field: the last character of a record is a
quote, a separator or a character that needs no quotes.

## Main definitions

* `IsSeparator` — what may stand between fields.
* `HasRead`, `Begins` — the reader behind and before a field.

## Main results

* `finish_writeRecords` — a run of the reader on the text of records ends with them.
* `exists_mark` — where a mark of byte order at the start of a text comes from.
* `readRecords_writeRecords` — records without such a mark are read back from their text.
-/

namespace JsonWorkbench.Csv

/-- An ASCII character that may stand between fields: no quote, and no line end. -/
structure IsSeparator (separator : Char) : Prop where
  /-- It is an ASCII character. -/
  ascii : separator.toNat < 128
  /-- It is no quote. -/
  ne_quote : separator ≠ '"'
  /-- It ends no line. -/
  endsLine : endsLine separator = false

/-- The reader before a record, behind some others. -/
def Reader.before (records : List Record) : Reader :=
  { state := .betweenRecords, field := [], fields := [], records := records.reverse }

/-- The reader before a field, behind some fields of its record and some records. -/
structure Begins (done : List (List Char)) (rs : List Record) (r : Reader) : Prop where
  /-- Nothing of the field has been read. -/
  field : r.field = []
  /-- The fields of the record. -/
  fields : r.fields = done.reverse
  /-- The records. -/
  records : r.records = rs.reverse
  /-- A field starts, or a record of which there is nothing. -/
  state : r.state = .fieldStart ∨ (r.state = .betweenRecords ∧ done = [])

/-- The reader behind a field, some fields before it in its record, and some records. -/
structure HasRead (done : List (List Char)) (content : List Char) (rs : List Record)
    (r : Reader) : Prop where
  /-- The field. -/
  field : r.field = content.reverse
  /-- The fields before it. -/
  fields : r.fields = done.reverse
  /-- The records. -/
  records : r.records = rs.reverse
  /-- No quotes are open. -/
  ne_inQuotes : r.state ≠ .inQuotes
  /-- The reader is before the record only if there is nothing of it. -/
  nil_of_between : r.state = .betweenRecords → done = [] ∧ content = []

variable {separator : Char} {done : List (List Char)} {content : List Char} {rs : List Record}
  {r : Reader}

/-- Before the first field of a record. -/
theorem begins_before (rs : List Record) : Begins [] rs (.before rs) :=
  ⟨rfl, rfl, rfl, .inr ⟨rfl, rfl⟩⟩

/-! ### Fields -/

/-- A character that needs no quotes is put into the field. -/
theorem step_plain (hquotes : r.state ≠ .inQuotes) (hafter : r.state ≠ .afterQuote) {c : Char}
    (hc : needsQuotes separator c = false) : r.step separator c = r.push c .inField := by
  simp only [needsQuotes, Bool.or_eq_false_iff] at hc
  obtain ⟨⟨hseparator, hquote⟩, hline⟩ := hc
  cases hstate : r.state with
  | inQuotes => exact absurd hstate hquotes
  | afterQuote => exact absurd hstate hafter
  | betweenRecords | fieldStart | inField =>
      simp only [Reader.step, hstate, Reader.stepPlain, hseparator, hquote, hline,
        Bool.false_eq_true, if_false]

/-- Characters that need no quotes are put into the field. -/
theorem foldl_step_plain (hquotes : r.state ≠ .inQuotes) (hafter : r.state ≠ .afterQuote)
    {c : Char} {cs : List Char} (h : ∀ d ∈ c :: cs, needsQuotes separator d = false) :
    (c :: cs).foldl (Reader.step separator) r =
      { r with field := (c :: cs).reverse ++ r.field, state := .inField } := by
  induction cs generalizing r c with
  | nil =>
      rw [List.foldl_cons, step_plain hquotes hafter (h c (List.mem_singleton_self c))]
      rfl
  | cons d cs ih =>
      rw [List.forall_mem_cons] at h
      rw [List.foldl_cons, step_plain hquotes hafter h.1,
        ih (by simp [Reader.push]) (by simp [Reader.push]) h.2]
      simp [Reader.push]

/-- What is in quotes is put into the field. -/
theorem foldl_step_quoted (hr : r.state = .inQuotes) (cs : List Char) :
    (cs.flatMap fun c => if c == '"' then [c, c] else [c]).foldl (Reader.step separator) r =
      { r with field := cs.reverse ++ r.field } := by
  induction cs generalizing r with
  | nil => rfl
  | cons c cs ih =>
      have hone : (if c == '"' then [c, c] else [c]).foldl (Reader.step separator) r =
          r.push c .inQuotes := by
        by_cases hc : c = '"'
        · simp [hc, Reader.step, hr, Reader.push]
        · simp [hc, Reader.step, hr, Reader.push]
      rw [List.flatMap_cons, List.foldl_append, hone, ih rfl]
      simp [Reader.push, hr]

/-- **A field is read from its text.** -/
theorem Begins.read (h : Begins done rs r) (content : List Char) :
    HasRead done content rs ((writeField separator content).foldl (Reader.step separator) r) := by
  have hquotes : r.state ≠ .inQuotes := by rcases h.state with hs | ⟨hs, -⟩ <;> simp [hs]
  have hafter : r.state ≠ .afterQuote := by rcases h.state with hs | ⟨hs, -⟩ <;> simp [hs]
  unfold writeField
  split
  · have hopen : r.step separator '"' = { r with state := .inQuotes } := by
      rcases h.state with hs | ⟨hs, -⟩ <;> simp [Reader.step, hs, endsLine]
    rw [List.foldl_cons, hopen, List.foldl_append, foldl_step_quoted rfl]
    exact ⟨by simp [Reader.step, h.field], h.fields, h.records, by simp [Reader.step],
      by simp [Reader.step]⟩
  · next hplain =>
      cases content with
      | nil =>
          refine ⟨h.field, h.fields, h.records, hquotes, fun hs => ⟨?_, rfl⟩⟩
          rcases h.state with hstart | ⟨-, hnil⟩
          · exact absurd (hstart.symm.trans hs) (by simp)
          · exact hnil
      | cons c cs =>
          have hall : ∀ d ∈ c :: cs, needsQuotes separator d = false := by
            intro d hd
            rw [← Bool.not_eq_true]
            exact fun hneeds => hplain (List.any_eq_true.mpr ⟨d, hd, hneeds⟩)
          rw [foldl_step_plain hquotes hafter hall]
          exact ⟨by simp [h.field], h.fields, h.records, by simp, by simp⟩

/-- Outside of quotes, a separator ends the field. -/
theorem HasRead.step_separator (hs : IsSeparator separator) (h : HasRead done content rs r) :
    Begins (done ++ [content]) rs (r.step separator separator) := by
  have hstep : r.step separator separator = r.endField := by
    cases hstate : r.state with
    | inQuotes => exact absurd hstate h.ne_inQuotes
    | betweenRecords | fieldStart | inField | afterQuote =>
        simp [Reader.step, hstate, Reader.stepPlain, hs.ne_quote, hs.endsLine]
  rw [hstep]
  exact ⟨rfl, by simp [Reader.endField, h.field, h.fields], h.records, .inl rfl⟩

/-! ### Records -/

/-- Behind the last field, there is something of the record unless it is a single empty field. -/
theorem HasRead.ne_betweenRecords (h : HasRead done content rs r) (hne : done ++ [content] ≠ [[]]) :
    r.state ≠ .betweenRecords := by
  intro hstate
  obtain ⟨rfl, rfl⟩ := h.nil_of_between hstate
  exact hne rfl

/-- The end of a record behind its last field. -/
theorem HasRead.endRecord (h : HasRead done content rs r) :
    r.endRecord = .before (rs ++ [done ++ [content]]) := by
  simp [Reader.endRecord, Reader.endField, Reader.before, h.field, h.fields, h.records]

/-- Outside of quotes, a line feed ends a record of which there is something. -/
theorem HasRead.step_lineFeed (hs : IsSeparator separator) (h : HasRead done content rs r)
    (hstate : r.state ≠ .betweenRecords) :
    r.step separator '\n' = .before (rs ++ [done ++ [content]]) := by
  have hne : ('\n' == separator) = false := by
    rw [beq_eq_false_iff_ne]
    rintro rfl
    exact absurd hs.endsLine (by decide)
  rw [← h.endRecord]
  cases hcase : r.state with
  | inQuotes => exact absurd hcase h.ne_inQuotes
  | betweenRecords => exact absurd hcase hstate
  | fieldStart | inField | afterQuote =>
      simp [Reader.step, hcase, Reader.stepPlain, hne, endsLine]

/-- The end of a text ends a record of which there is something. -/
theorem HasRead.finish (h : HasRead done content rs r) (hstate : r.state ≠ .betweenRecords) :
    r.finish = rs ++ [done ++ [content]] := by
  have hend : r.finish = r.endRecord.records.reverse := by
    cases hcase : r.state with
    | betweenRecords => exact absurd hcase hstate
    | fieldStart | inField | inQuotes | afterQuote => simp only [Reader.finish, hcase]
  rw [hend, h.endRecord]
  simp [Reader.before]

/-- A record as text, without its line feed: the first field, and the others with a separator
before each. -/
def recordText (separator : Char) : Record → List Char
  | [] => []
  | [[]] => ['"', '"']
  | field :: fields => writeField separator field ++
      fields.flatMap fun other => separator :: writeField separator other

/-- A record that is not a single empty field has no quotes of its own. -/
theorem recordText_cons (separator : Char) {field : List Char} {fields : List (List Char)}
    (h : field :: fields ≠ [[]]) :
    recordText separator (field :: fields) = writeField separator field ++
      fields.flatMap fun other => separator :: writeField separator other := by
  unfold recordText
  split
  · next hnil => cases hnil
  · next hempty => exact absurd hempty h
  · next heq =>
      cases heq
      rfl

/-- A record is written as its text and a line feed. -/
theorem writeRecord_eq (separator : Char) {record : Record} (h : record ≠ []) :
    writeRecord separator record = recordText separator record ++ ['\n'] := by
  obtain ⟨field, fields, rfl⟩ := List.exists_cons_of_ne_nil h
  unfold writeRecord
  split
  · next hempty =>
      rw [hempty]
      rfl
  · next hne =>
      rw [recordText_cons separator hne, List.map_cons, Text.flatten_intersperse, List.flatMap_map]

/-- The fields behind a field are read from their texts. -/
theorem HasRead.read (hs : IsSeparator separator) (h : HasRead done content rs r)
    (fields : List (List Char)) :
    ∃ done' content', done' ++ [content'] = done ++ [content] ++ fields ∧
      HasRead done' content' rs
        ((fields.flatMap fun other => separator :: writeField separator other).foldl
          (Reader.step separator) r) := by
  -- on the fields that are left; the last one read is kept apart from those before it
  induction fields generalizing done content r with
  | nil => exact ⟨done, content, by simp, h⟩
  | cons field fields ih =>
      obtain ⟨done', content', heq, hread⟩ := ih ((h.step_separator hs).read field)
      refine ⟨done', content', by simp [heq], ?_⟩
      rw [List.flatMap_cons, List.cons_append, List.foldl_cons, List.foldl_append]
      exact hread

/-- **A record is read from its text**, and there is something of it before its end. -/
theorem exists_hasRead (hs : IsSeparator separator) (rs : List Record) {record : Record}
    (h : record ≠ []) :
    ∃ done content, done ++ [content] = record ∧
      HasRead done content rs ((recordText separator record).foldl (Reader.step separator)
        (.before rs)) ∧
      ((recordText separator record).foldl (Reader.step separator) (.before rs)).state ≠
        .betweenRecords := by
  by_cases hempty : record = [[]]
  · subst hempty
    exact ⟨[], [], rfl, ⟨rfl, rfl, rfl, by simp [recordText, Reader.before, Reader.step, endsLine],
      fun _ => ⟨rfl, rfl⟩⟩, by simp [recordText, Reader.before, Reader.step, endsLine]⟩
  · obtain ⟨field, fields, rfl⟩ := List.exists_cons_of_ne_nil h
    obtain ⟨done, content, heq, hread⟩ := ((begins_before rs).read field).read hs fields
    rw [recordText_cons separator hempty, List.foldl_append]
    exact ⟨done, content, heq, hread, hread.ne_betweenRecords (by rw [heq]; exact hempty)⟩

/-- Behind a record and its line feed, the reader is before the next. -/
theorem foldl_step_writeRecord (hs : IsSeparator separator) (rs : List Record) {record : Record}
    (h : record ≠ []) :
    (writeRecord separator record).foldl (Reader.step separator) (.before rs) =
      .before (rs ++ [record]) := by
  obtain ⟨done, content, heq, hread, hstate⟩ := exists_hasRead hs rs h
  rw [writeRecord_eq separator h, List.foldl_append, ← heq]
  rw [← heq] at hread hstate
  exact hread.step_lineFeed hs hstate

/-- Behind some records and their line feeds, the reader is before the next. -/
theorem foldl_step_writeRecords (hs : IsSeparator separator) (rs : List Record)
    {records : List Record} (h : ∀ record ∈ records, record ≠ []) :
    (records.flatMap (writeRecord separator)).foldl (Reader.step separator) (.before rs) =
      .before (rs ++ records) := by
  induction records generalizing rs with
  | nil => simp
  | cons record records ih =>
      rw [List.forall_mem_cons] at h
      rw [List.flatMap_cons, List.foldl_append, foldl_step_writeRecord hs rs h.1, ih _ h.2,
        List.append_assoc]
      rfl

/-! ### The ends of a text -/

/-- A text that ends, and not in a line feed. -/
def EndsInContent (cs : List Char) : Prop := ∃ start c, cs = start ++ [c] ∧ (c == '\n') = false

/-- What a text ends in, it ends in behind other characters. -/
theorem EndsInContent.append {ds : List Char} (h : EndsInContent ds) (cs : List Char) :
    EndsInContent (cs ++ ds) := by
  obtain ⟨start, c, rfl, hc⟩ := h
  exact ⟨cs ++ start, c, (List.append_assoc ..).symm, hc⟩

/-- A field of which there is something ends in no line feed. -/
theorem endsInContent_writeField (separator : Char) {content : List Char} (h : content ≠ []) :
    EndsInContent (writeField separator content) := by
  unfold writeField
  split
  · exact ⟨'"' :: content.flatMap _, '"', (List.cons_append ..).symm, by decide⟩
  · next hplain =>
      refine ⟨content.dropLast, content.getLast h, (List.dropLast_concat_getLast h).symm, ?_⟩
      have hlast : needsQuotes separator (content.getLast h) = false := by
        rw [← Bool.not_eq_true]
        exact fun hneeds => hplain (List.any_eq_true.mpr ⟨_, List.getLast_mem h, hneeds⟩)
      simp only [needsQuotes, endsLine, Bool.or_eq_false_iff] at hlast
      exact hlast.2.1

/-- A separator and a field behind it end in no line feed. -/
theorem endsInContent_separator (hs : IsSeparator separator) (content : List Char) :
    EndsInContent (separator :: writeField separator content) := by
  cases content with
  | nil =>
      have hline := hs.endsLine
      rw [endsLine, Bool.or_eq_false_iff] at hline
      exact ⟨[], separator, rfl, hline.1⟩
  | cons c cs => exact (endsInContent_writeField separator (List.cons_ne_nil c cs)).append [_]

/-- The text of a record ends in no line feed. -/
theorem endsInContent_recordText (hs : IsSeparator separator) {record : Record} (h : record ≠ []) :
    EndsInContent (recordText separator record) := by
  by_cases hempty : record = [[]]
  · subst hempty
    exact ⟨['"'], '"', rfl, by decide⟩
  · obtain ⟨field, fields, rfl⟩ := List.exists_cons_of_ne_nil h
    rw [recordText_cons separator hempty]
    cases fields using List.reverseRecOn with
    | nil =>
        rw [List.flatMap_nil, List.append_nil]
        exact endsInContent_writeField separator fun hnil => hempty (by rw [hnil])
    | append_singleton fields last =>
        rw [List.flatMap_append, List.flatMap_singleton]
        exact ((endsInContent_separator hs last).append _).append _

/-- A text of records ends in the line feed of the last one, and only that one goes with the line
feeds at its end. -/
theorem dropEndWhile_writeRecords (hs : IsSeparator separator) (records : List Record)
    {record : Record} (h : record ≠ []) :
    Text.dropEndWhile (· == '\n') ((records ++ [record]).flatMap (writeRecord separator)) =
      records.flatMap (writeRecord separator) ++ recordText separator record := by
  obtain ⟨start, c, htext, hc⟩ := (endsInContent_recordText hs h).append
    (records.flatMap (writeRecord separator))
  rw [List.flatMap_append, List.flatMap_singleton, writeRecord_eq separator h, ← List.append_assoc,
    Text.dropEndWhile_append_of_forall (by simp), htext]
  exact Text.dropEndWhile_concat (p := (· == '\n')) hc start

/-- A record as text begins with a quote, a separator or the first character of the record, in a
field without quotes. -/
theorem recordText_eq_cons {record : Record} {c : Char} {rest : List Char}
    (h : recordText separator record = c :: rest) :
    c = '"' ∨ c = separator ∨ ∃ content fields, record = (c :: content) :: fields ∧
      (c :: content).any (needsQuotes separator) = false := by
  by_cases hempty : record = [[]]
  · subst hempty
    cases h
    exact .inl rfl
  · rcases record with - | ⟨field, fields⟩
    · cases h
    rw [recordText_cons separator hempty] at h
    rcases field with - | ⟨d, content⟩
    · rcases fields with - | ⟨other, fields⟩
      · exact absurd rfl hempty
      · cases h
        exact .inr (.inl rfl)
    · unfold writeField at h
      split at h
      · cases h
        exact .inl rfl
      · next hplain =>
          cases h
          exact .inr (.inr ⟨content, fields, rfl, Bool.not_eq_true _ ▸ hplain⟩)

/-- The first of some records does not begin with a mark of byte order. -/
def Unmarked (records : List Record) : Prop :=
  ∀ content fields others, records ≠ (('\uFEFF' :: content) :: fields) :: others

/-- If the text of records has a mark of byte order, it is the first character of the first record,
and stands in a field without quotes. -/
theorem exists_mark (hs : IsSeparator separator) {records : List Record}
    (h : ∀ record ∈ records, record ≠ []) {rest : List Char}
    (htext : Text.dropEndWhile (· == '\n') (records.flatMap (writeRecord separator)) =
      '\uFEFF' :: rest) :
    ∃ content fields others, records = (('\uFEFF' :: content) :: fields) :: others ∧
      ('\uFEFF' :: content).any (needsQuotes separator) = false := by
  -- with the line feeds put back it is the whole text
  obtain ⟨feeds, hfeeds, -⟩ := Text.exists_dropEndWhile (· == '\n')
    (records.flatMap (writeRecord separator))
  rw [htext] at hfeeds
  rcases records with - | ⟨record, others⟩
  · cases hfeeds
  rw [List.forall_mem_cons] at h
  obtain ⟨start, last, hrecord, -⟩ := endsInContent_recordText hs h.1
  obtain ⟨c, cs, hcons⟩ := List.exists_cons_of_ne_nil (l := recordText separator record)
    (by simp [hrecord])
  rw [List.flatMap_cons, writeRecord_eq separator h.1, hcons] at hfeeds
  obtain rfl : c = '\uFEFF' := (List.cons.inj hfeeds).1
  rcases recordText_eq_cons hcons with hquote | hseparator | ⟨content, fields, rfl, hplain⟩
  · exact absurd hquote (by decide)
  · exact absurd hs.ascii (by rw [← hseparator]; decide)
  · exact ⟨content, fields, others, rfl, hplain⟩

/-- Reading a text without a mark of byte order is a run of the reader. -/
theorem readRecords_of_ne_cons {cs : List Char} (h : ∀ rest, cs ≠ '\uFEFF' :: rest) :
    readRecords separator cs = (cs.foldl (Reader.step separator) .start).finish := by
  unfold readRecords
  split
  · next rest => exact absurd rfl (h rest)
  · rfl

/-- **A run of the reader on the text of records ends with them**, without the line feeds at the end
of the text. -/
theorem finish_writeRecords (hs : IsSeparator separator) {records : List Record}
    (h : ∀ record ∈ records, record ≠ []) :
    ((Text.dropEndWhile (· == '\n') (records.flatMap (writeRecord separator))).foldl
      (Reader.step separator) .start).finish = records := by
  cases records using List.reverseRecOn with
  | nil => rfl
  | append_singleton records record =>
      have hrecord : record ≠ [] := h record (by simp)
      have hrecords : ∀ other ∈ records, other ≠ [] := fun other ho => h other (by simp [ho])
      obtain ⟨done, content, heq, hread, hstate⟩ := exists_hasRead hs records hrecord
      have hbefore : Reader.start = .before [] := rfl
      rw [dropEndWhile_writeRecords hs records hrecord, List.foldl_append, hbefore,
        foldl_step_writeRecords hs [] hrecords, List.nil_append, hread.finish hstate, heq]

/-- **Records are read back from their text**, without the line feeds at its end. -/
theorem readRecords_writeRecords (hs : IsSeparator separator) {records : List Record}
    (h : ∀ record ∈ records, record ≠ []) (hmark : Unmarked records) :
    readRecords separator
      (Text.dropEndWhile (· == '\n') (records.flatMap (writeRecord separator))) = records := by
  rw [readRecords_of_ne_cons, finish_writeRecords hs h]
  intro rest htext
  obtain ⟨content, fields, others, heq, -⟩ := exists_mark hs h htext
  exact hmark content fields others heq

end JsonWorkbench.Csv
