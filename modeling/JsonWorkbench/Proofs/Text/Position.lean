import JsonWorkbench.Proofs.Text
import JsonWorkbench.Text.Lines
import Mathlib.Data.List.DropRight
import Mathlib.Order.Bounds.Basic

/-!
# Positions and the Lines around Them

A byte offset is told as a line and a column, and a message shows the line with some lines around
it. The position is found by counting line feeds and characters up to the offset, the lines by
cutting the text at its line feeds; that the two agree is what this module shows. A start of a text
is a number of lines with their line feeds and a part of the next line (`exists_lines`), and both
the count and the cut go through it line by line.

## Main definitions

* `EndsAtBoundary` — a start of a text goes as far as whole characters do before an offset.
* `IsContext` — lines that are shown around a line.

## Main results

* `endsAtBoundary_takeBytes` — where the start of a text up to an offset ends.
* `contextLines_eq` — the lines that are shown, given the lines before and behind.
* `positionAt_contextLines` — a position and the lines around it.
-/

namespace JsonWorkbench.Text

/-! ### Bytes -/

/-- The bytes of a string are those of its characters. -/
theorem utf8ByteSize_ofList (cs : List Char) :
    (String.ofList cs).utf8ByteSize = byteLength cs := by
  induction cs with
  | nil => rfl
  | cons c cs ih =>
      rw [← List.singleton_append, String.ofList_append, String.utf8ByteSize_append, ih,
        ← String.singleton_eq_ofList, String.utf8ByteSize_singleton]
      rfl

/-- The bytes taken are those of a start of the text. -/
theorem exists_takeBytes (n : Nat) (cs : List Char) : ∃ i, takeBytes n cs = cs.take i := by
  induction cs generalizing n with
  | nil => exact ⟨0, rfl⟩
  | cons c cs ih =>
      rw [takeBytes]
      split
      · obtain ⟨i, hi⟩ := ih (n - c.utf8Size)
        exact ⟨i + 1, by rw [hi, List.take_succ_cons]⟩
      · exact ⟨0, rfl⟩

/-- No more bytes are taken than asked for. -/
theorem byteLength_takeBytes_le (n : Nat) (cs : List Char) : byteLength (takeBytes n cs) ≤ n := by
  induction cs generalizing n with
  | nil => exact Nat.zero_le n
  | cons c cs ih =>
      rw [takeBytes]
      split
      · next hfits =>
          have hrest := ih (n - c.utf8Size)
          rw [byteLength]
          omega
      · exact Nat.zero_le n

/-- No start of the text that fits has more bytes than are taken. -/
theorem byteLength_take_le_takeBytes {n : Nat} {cs : List Char} {i : Nat}
    (h : byteLength (cs.take i) ≤ n) : byteLength (cs.take i) ≤ byteLength (takeBytes n cs) := by
  induction cs generalizing n i with
  | nil => simp [takeBytes]
  | cons c cs ih =>
      cases i with
      | zero => exact Nat.zero_le _
      | succ i =>
          rw [List.take_succ_cons, byteLength] at h ⊢
          have hrest : byteLength (cs.take i) ≤ n - c.utf8Size := by omega
          rw [takeBytes, if_pos (by omega), byteLength]
          exact Nat.add_le_add_left (ih hrest) _

/-- A start of a text ends at the greatest boundary of characters that is not behind an offset. -/
structure EndsAtBoundary (text : String) (offset : Nat) (start : List Char) : Prop where
  /-- It is a start of the text. -/
  isStart : start <+: text.toList
  /-- Its bytes reach up to the boundary. -/
  isGreatest : IsGreatest {b | b ≤ offset ∧ String.Pos.Raw.IsValid text ⟨b⟩}
    (String.ofList start).utf8ByteSize

/-- **The bytes taken up to an offset** end at the greatest boundary that is not behind it. -/
theorem endsAtBoundary_takeBytes (text : String) (offset : Nat) :
    EndsAtBoundary text offset (takeBytes offset text.toList) := by
  obtain ⟨i, hi⟩ := exists_takeBytes offset text.toList
  refine ⟨hi ▸ List.take_prefix i _, ⟨?fits, ?valid⟩, ?greatest⟩
  case fits =>
    rw [utf8ByteSize_ofList]
    exact byteLength_takeBytes_le offset text.toList
  case valid => exact String.Pos.Raw.isValid_iff_exists_take_toList.mpr ⟨i, by rw [hi]⟩
  case greatest =>
    rintro b ⟨hb, hvalid⟩
    obtain ⟨j, hj⟩ := String.Pos.Raw.isValid_iff_exists_take_toList.mp hvalid
    rw [utf8ByteSize_ofList] at hj ⊢
    obtain rfl : b = byteLength (text.toList.take j) := hj
    exact byteLength_take_le_takeBytes hb

/-! ### Lines -/

/-- The texts between line feeds. -/
theorem lineList_eq_splitOn (cs : List Char) : lineList cs = cs.splitOn '\n' := by
  rw [lineList, List.splitOn]
  induction cs with
  | nil => rfl
  | cons c cs ih =>
      obtain ⟨w, ws, hpieces⟩ := List.exists_cons_of_ne_nil (pieces_ne_nil (· == '\n') cs)
      rw [pieces, List.splitOnP_cons_eq_if_modifyHead, ← ih, hpieces]
      rfl

/-- Dropping from the end by recursion from the start. -/
theorem dropEndWhile_eq_rdropWhile {α : Type} (p : α → Bool) (xs : List α) :
    dropEndWhile p xs = xs.rdropWhile p := by
  induction xs using List.reverseRecOn with
  | nil => rfl
  | append_singleton xs x ih =>
      rw [List.rdropWhile_concat]
      split
      · next hx => rw [dropEndWhile_append_of_forall (by simpa using hx), ih]
      · next hx => exact dropEndWhile_concat (Bool.eq_false_iff.mpr hx) xs

/-- A line without the carriage returns at its end. -/
theorem withoutReturns_eq_rdropWhile (cs : List Char) :
    withoutReturns cs = cs.rdropWhile (· == '\r') := by
  rw [← dropEndWhile_eq_rdropWhile]
  induction cs with
  | nil => rfl
  | cons c cs ih =>
      rw [withoutReturns, dropEndWhile, ih]
      cases dropEndWhile (· == '\r') cs <;> rfl

/-- A text is a number of lines, each with its line feed, and a part of a line. -/
theorem exists_lines (cs : List Char) :
    ∃ (before : List (List Char)) (last : List Char),
      cs = before.flatMap (· ++ ['\n']) ++ last ∧ (∀ w ∈ before, '\n' ∉ w) ∧ '\n' ∉ last := by
  induction cs using List.reverseRecOn with
  | nil => exact ⟨[], [], rfl, by simp, by simp⟩
  | append_singleton cs c ih =>
      obtain ⟨before, last, rfl, hbefore, hlast⟩ := ih
      by_cases hc : c = '\n'
      · refine ⟨before ++ [last], [], by simp [hc], ?_, by simp⟩
        exact List.forall_mem_append.mpr ⟨hbefore, by simpa using hlast⟩
      · exact ⟨before, last ++ [c], by simp, hbefore, by simp [hlast, Ne.symm hc]⟩

variable {before : List (List Char)} {last : List Char}

/-- Lines that end in line feeds are the first ones of a text. -/
theorem lineList_lines (hbefore : ∀ w ∈ before, '\n' ∉ w) (rest : List Char) :
    lineList (before.flatMap (· ++ ['\n']) ++ rest) = before ++ lineList rest := by
  induction before with
  | nil => rfl
  | cons w before ih =>
      rw [List.forall_mem_cons] at hbefore
      have hw : ∀ c ∈ w, (c == '\n') = false := fun c hc =>
        beq_eq_false_iff_ne.mpr fun heq => hbefore.1 (heq ▸ hc)
      calc lineList ((w :: before).flatMap (· ++ ['\n']) ++ rest)
          = lineList (w ++ '\n' :: (before.flatMap (· ++ ['\n']) ++ rest)) := by simp
        _ = w :: lineList (before.flatMap (· ++ ['\n']) ++ rest) :=
              pieces_append_cons hw rfl _
        _ = w :: before ++ lineList rest := by rw [ih hbefore.2, List.cons_append]

/-- A part of a line is the start of the first line. -/
theorem exists_lineList_append (hlast : '\n' ∉ last) (rest : List Char) :
    ∃ more behind, lineList (last ++ rest) = (last ++ more) :: behind := by
  induction last with
  | nil => exact List.exists_cons_of_ne_nil (pieces_ne_nil _ rest)
  | cons c last ih =>
      rw [List.mem_cons, not_or] at hlast
      obtain ⟨more, behind, heq⟩ := ih hlast.2
      refine ⟨more, behind, ?_⟩
      rw [lineList] at heq ⊢
      rw [List.cons_append, pieces, if_neg (by simpa using Ne.symm hlast.1), heq]
      rfl

/-! ### Counting -/

/-- A part of a line takes a column for each of its characters. -/
theorem advance_of_not_mem (hlast : '\n' ∉ last) (line column : Nat) :
    advance (line, column) last = (line, column + last.length) := by
  induction last generalizing column with
  | nil => rfl
  | cons c last ih =>
      rw [List.mem_cons, not_or] at hlast
      rw [advance, if_neg (by simpa using Ne.symm hlast.1), ih hlast.2, List.length_cons,
        Nat.add_right_comm, Nat.add_assoc]

/-- The position behind two texts. -/
theorem advance_append (at_ : Nat × Nat) (cs ds : List Char) :
    advance at_ (cs ++ ds) = advance (advance at_ cs) ds := by
  induction cs generalizing at_ with
  | nil => rfl
  | cons c cs ih =>
      rw [List.cons_append, advance, advance]
      split <;> exact ih _

/-- Behind lines that end in line feeds begins the next line. -/
theorem advance_lines (hbefore : ∀ w ∈ before, '\n' ∉ w) (line : Nat) :
    advance (line, 1) (before.flatMap (· ++ ['\n'])) = (line + before.length, 1) := by
  induction before generalizing line with
  | nil => rfl
  | cons w before ih =>
      rw [List.forall_mem_cons] at hbefore
      have hline : advance (line, 1) (w ++ ['\n']) = (line + 1, 1) := by
        rw [advance_append, advance_of_not_mem hbefore.1]
        rfl
      rw [List.flatMap_cons, advance_append, hline, ih hbefore.2, List.length_cons,
        Nat.add_assoc, Nat.add_comm 1]

/-- The position behind a start of a text. -/
theorem advance_start (hbefore : ∀ w ∈ before, '\n' ∉ w) (hlast : '\n' ∉ last) :
    advance (1, 1) (before.flatMap (· ++ ['\n']) ++ last) = (before.length + 1, last.length + 1) := by
  rw [advance_append, advance_lines hbefore, advance_of_not_mem hlast, Nat.add_comm 1,
    Nat.add_comm 1]

/-! ### The lines that are shown -/

/-- Lines as they are shown, numbered from the first on, with one of the numbers marked. -/
def numbered (marked first : Nat) (lines : List (List Char)) : List ContextLine :=
  (lines.zipIdx first).map fun (content, number) =>
    { number, content := String.ofList (withoutReturns content), isError := number == marked }

variable {marked first : Nat} {lines : List (List Char)}

/-- The numbers follow one another. -/
theorem map_number_numbered (marked first : Nat) (lines : List (List Char)) :
    (numbered marked first lines).map (·.number) = List.range' first lines.length := by
  rw [numbered, List.map_map]
  exact List.zipIdx_map_snd first lines

/-- No line is marked where the number does not occur. -/
theorem filter_isError_numbered_of_out (h : marked < first ∨ first + lines.length ≤ marked) :
    (numbered marked first lines).filter (·.isError) = [] := by
  rw [List.filter_eq_nil_iff]
  intro e he
  obtain ⟨⟨content, number⟩, hx, rfl⟩ := List.mem_map.mp he
  obtain ⟨hfirst, hnumber, -⟩ := List.mem_zipIdx hx
  have hne : number ≠ marked := by omega
  simpa using hne

variable {text : String} {current : List Char} {behind : List (List Char)}

/-- The line with the number is marked, and no other one. -/
theorem filter_isError_numbered (h : first + before.length = marked) :
    (numbered marked first (before ++ current :: behind)).filter (·.isError) =
      [{ number := marked, content := String.ofList (withoutReturns current), isError := true }] := by
  have hsplit : numbered marked first (before ++ current :: behind) =
      numbered marked first before ++
        { number := marked, content := String.ofList (withoutReturns current), isError := true } ::
          numbered marked (marked + 1) behind := by
    simp only [numbered, List.zipIdx_append, List.map_append, h, List.zipIdx_cons, List.map_cons,
      beq_self_eq_true]
  rw [hsplit, List.filter_append, filter_isError_numbered_of_out (.inr h.le),
    List.filter_cons_of_pos rfl, filter_isError_numbered_of_out (.inl (Nat.lt_succ_self marked))]
  rfl

/-- **The lines shown around a line**: the last ones before it, itself, and the first ones behind
it. -/
theorem contextLines_eq (h : lineList text.toList = before ++ current :: behind) (radius : Nat) :
    contextLines text (before.length + 1) radius =
      numbered (before.length + 1) (before.length - radius + 1)
        (before.drop (before.length - radius) ++ current :: behind.take radius) := by
  have htake : (before ++ current :: behind).take (before.length + 1 + radius) =
      before ++ current :: behind.take radius := by
    rw [List.take_append, List.take_of_length_le (by omega),
      show before.length + 1 + radius - before.length = radius + 1 by omega, List.take_succ_cons]
  have hstart : before.length + 1 - (1 + radius) = before.length - radius := by omega
  rw [contextLines, h, htake, hstart, List.drop_append_of_le_length (Nat.sub_le _ _), numbered]

/-- What is shown under a number is the line of that number. -/
theorem exists_of_mem_contextLines {e : ContextLine} {line radius : Nat}
    (he : e ∈ contextLines text line radius) :
    ∃ content, (lineList text.toList)[e.number - 1]? = some content ∧
      e.content = String.ofList (content.rdropWhile (· == '\r')) := by
  obtain ⟨⟨content, number⟩, hx, rfl⟩ := List.mem_map.mp he
  obtain ⟨hfirst, hget⟩ := List.mk_mem_zipIdx_iff_le_and_getElem?_sub.mp hx
  refine ⟨content, ?_, congrArg String.ofList (withoutReturns_eq_rdropWhile content)⟩
  rw [List.getElem?_drop, show line - (1 + radius) + (number - (line - (1 + radius) + 1)) =
    number - 1 by omega, List.getElem?_take] at hget
  exact (Option.ite_none_right_eq_some.mp hget).2

/-- Lines are shown around the line at an index. It is marked, and no other line is; on each side of
it `radius` lines are shown, or as many as there are; and a line is shown without the carriage
returns at its end. -/
structure IsContext (lines : List (List Char)) (line radius : Nat) (shown : List ContextLine) :
    Prop where
  /-- The line at the index is shown and marked, and no other one is marked. -/
  marked : ∃ content, lines[line]? = some content ∧
    shown.filter (·.isError) =
      [{ number := line + 1, content := String.ofList (content.rdropWhile (· == '\r')),
         isError := true }]
  /-- The numbers of the lines follow one another, on each side of the line at most `radius`. -/
  numbers : shown.map (·.number) =
    List.range' (line + 1 - min radius line)
      (min radius line + 1 + min radius (lines.length - (line + 1)))
  /-- A line is shown under its number. -/
  contents : ∀ e ∈ shown, ∃ content, lines[e.number - 1]? = some content ∧
    e.content = String.ofList (content.rdropWhile (· == '\r'))

/-- **The lines shown around a line are its context.** -/
theorem isContext_contextLines (h : lineList text.toList = before ++ current :: behind)
    (radius : Nat) :
    IsContext (lineList text.toList) before.length radius
      (contextLines text (before.length + 1) radius) where
  marked := by
    have hline : before.length - radius + 1 + (before.drop (before.length - radius)).length =
        before.length + 1 := by
      rw [List.length_drop]
      omega
    refine ⟨current, by simp [h], ?_⟩
    rw [contextLines_eq h, filter_isError_numbered hline, withoutReturns_eq_rdropWhile]
  numbers := by
    rw [contextLines_eq h, map_number_numbered, h]
    simp only [List.length_append, List.length_drop, List.length_cons, List.length_take]
    congr 1 <;> omega
  contents := fun _ he => exists_of_mem_contextLines he

/-! ### Positions -/

/-- **A position and the lines around it.** For every offset, inside a character or behind the end
too, the lines before the position with their line feeds and the characters of its line before its
column are the start of the text up to the greatest boundary of characters that is not behind the
offset; and the lines shown around the position, however many are asked for, are the context of its
line. -/
theorem positionAt_contextLines (text : String) (offset : Nat) :
    ∃ (line column : Nat) (current : List Char),
      positionAt text offset = (line + 1, column + 1) ∧
      (text.toList.splitOn '\n')[line]? = some current ∧ column ≤ current.length ∧
      EndsAtBoundary text offset
        (((text.toList.splitOn '\n').take line).flatMap (· ++ ['\n']) ++ current.take column) ∧
      ∀ radius, IsContext (text.toList.splitOn '\n') line radius
        (contextLines text (line + 1) radius) := by
  have hboundary := endsAtBoundary_takeBytes text offset
  obtain ⟨before, last, hstart, hbefore, hlast⟩ := exists_lines (takeBytes offset text.toList)
  obtain ⟨rest, hrest⟩ := hboundary.isStart
  obtain ⟨more, behind, hmore⟩ := exists_lineList_append hlast rest
  have hlines : lineList text.toList = before ++ (last ++ more) :: behind := by
    rw [← hrest, hstart, List.append_assoc, lineList_lines hbefore, hmore]
  rw [← lineList_eq_splitOn]
  refine ⟨before.length, last.length, last ++ more, ?position, by simp [hlines], by simp,
    ?boundary, isContext_contextLines hlines⟩
  case position => rw [positionAt, hstart, advance_start hbefore hlast]
  case boundary =>
    rw [hlines, List.take_left, List.take_left, ← hstart]
    exact hboundary

/-- An offset in the second character, of two bytes, behind a line that ends in a carriage return
and a line feed. -/
example : positionAt "é\r\né" 5 = (2, 1) ∧
    contextLines "é\r\né" 2 1 = [⟨1, "é", false⟩, ⟨2, "é", true⟩] := by decide

end JsonWorkbench.Text
