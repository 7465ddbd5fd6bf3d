import JsonWorkbench.Json.Printer
import JsonWorkbench.Json.TrailingComma
import JsonWorkbench.Proofs.Numeral.Double
import JsonWorkbench.Proofs.Value

/-!
# Trailing Commas in Indented Texts

The commas are found from the lines of a text, which know nothing of values: a line gets one from
its own last character and from the first character of the next line. In the indented text of a
value this finds the ends of containers, because every entry and every closing bracket begins a
line, a string has no line end in it and ends in its quote, and no entry begins with a bracket that
closes. So it does not matter what the strings hold, nor how many containers end one behind the
other.

The argument goes along the text. What becomes of a piece of it is said for every beginning of the
line in front of the piece and every continuation behind it (`Becomes`), and what is to become of a
continuation for every line in front of it that takes a comma (`Continues`). A closing bracket on
the next line is a continuation that puts a comma first; another entry is one that does not.

## Main definitions

* `withTrailingCommas` — the commas line by line, on lists of characters.
* `Marked`, `Marked.fill` — texts with places in them, at which something is put.
* `marked` — the text of a value, with a place directly behind the last entry of every container
  that has entries.
* `Continues`, `Becomes` — what is to become of what follows a line, and of a piece of text.

## Main results

* `fill_nil_marked` — with nothing at its places, that text is the written text.
* `withTrailingCommas_append_cons` — the comma of one line.
* `becomes_enclosed` — a container becomes the container of what its entries become.
* `addTrailingCommas_stringify` — the commas of an indented text are exactly at its places.
-/

namespace JsonWorkbench.Json

/-! ### Commas line by line -/

/-- The characters of a text with the commas between its lines. -/
def withTrailingCommas (cs : List Char) : List Char :=
  ['\n'].intercalate (withCommas (Text.shownLines cs))

/-- A text has no line end in it. -/
def IsLine (cs : List Char) : Prop := '\n' ∉ cs ∧ '\r' ∉ cs

instance : DecidablePred IsLine :=
  fun cs => inferInstanceAs (Decidable ('\n' ∉ cs ∧ '\r' ∉ cs))

/-- Two texts without line ends, one behind the other. -/
theorem isLine_append {cs ds : List Char} : IsLine (cs ++ ds) ↔ IsLine cs ∧ IsLine ds := by
  simp only [IsLine, List.mem_append, not_or]
  tauto

/-- A line that does not end in a carriage return is left alone. -/
theorem withoutReturn_append_cons {cs : List Char} (hcs : '\r' ∉ cs) {c : Char} (hc : c ≠ '\r')
    (rest : List Char) :
    Text.withoutReturn (cs ++ c :: rest) = cs ++ c :: Text.withoutReturn rest := by
  have hcons {c : Char} (hc : c ≠ '\r') (rest : List Char) :
      Text.withoutReturn (c :: rest) = c :: Text.withoutReturn rest := by
    rw [Text.withoutReturn]
    exact fun h _ => hc h
  induction cs with
  | nil => exact hcons hc rest
  | cons d cs ih =>
      rw [List.mem_cons, not_or] at hcs
      rw [List.cons_append, hcons (Ne.symm hcs.1), ih hcs.2, List.cons_append]

/-- A text without a carriage return does not end in one. -/
theorem withoutReturn_of_not_mem {cs : List Char} (h : '\r' ∉ cs) : Text.withoutReturn cs = cs := by
  rcases List.eq_nil_or_concat cs with rfl | ⟨start, c, rfl⟩
  · rfl
  · rw [List.concat_eq_append, List.mem_append, not_or, List.mem_singleton] at h
    rw [List.concat_eq_append, withoutReturn_append_cons h.1 (Ne.symm h.2)]
    rfl

/-- A text is cut at line feeds only. -/
theorem forall_eq_false_of_not_mem {cs : List Char} (h : '\n' ∉ cs) :
    ∀ c ∈ cs, (c == '\n') = false := by
  intro c hc
  rw [beq_eq_false_iff_ne]
  exact ne_of_mem_of_not_mem hc h

/-- What stands in front of a line feed is a line. -/
theorem shownLines_append_cons {line : List Char} (hline : '\n' ∉ line) (rest : List Char) :
    Text.shownLines (line ++ '\n' :: rest) = Text.withoutReturn line :: Text.shownLines rest := by
  obtain ⟨first, others, hpieces⟩ :=
    List.exists_cons_of_ne_nil (Text.pieces_ne_nil (· == '\n') rest)
  rw [Text.shownLines, Text.shownLines, Text.lineList, Text.lineList,
    Text.pieces_append_cons (forall_eq_false_of_not_mem hline) (beq_self_eq_true '\n'), hpieces,
    Text.shownLinesOf]
  simp

/-- A text without line feeds is one line, if there is anything. -/
theorem shownLines_of_not_mem {line : List Char} (hline : '\n' ∉ line) (hne : line ≠ []) :
    Text.shownLines line = [line] := by
  rw [Text.shownLines, Text.lineList,
    Text.pieces_of_forall_not (forall_eq_false_of_not_mem hline), Text.shownLinesOf,
    if_neg (by simpa using hne)]

/-- A text that begins with blanks and a character that is none has a first line that begins so. -/
theorem exists_shownLines {gap : List Char} (hgap : IsLine gap) {c : Char}
    (hc : Text.isBlank c = false) (more : List Char) :
    ∃ rest lines, Text.shownLines (gap ++ c :: more) = (gap ++ c :: rest) :: lines := by
  have hreturn : c ≠ '\r' := by
    rintro rfl
    exact absurd hc (by decide)
  have hfeed : c ≠ '\n' := by
    rintro rfl
    exact absurd hc (by decide)
  obtain ⟨run, behind, rfl, hrun, hbehind⟩ := Text.exists_run (· != '\n') more
  have hfirst : '\n' ∉ gap ++ c :: run := by
    simp only [List.mem_append, List.mem_cons, not_or]
    exact ⟨hgap.1, Ne.symm hfeed, fun hmem => by simpa using hrun _ hmem⟩
  cases behind with
  | nil =>
      refine ⟨run, [], ?_⟩
      rw [List.append_nil, shownLines_of_not_mem hfirst (by simp)]
  | cons d behind =>
      obtain rfl : d = '\n' := by simpa using Text.stops_cons.mp hbehind
      refine ⟨Text.withoutReturn run, Text.shownLines behind, ?_⟩
      rw [← List.cons_append, ← List.append_assoc, shownLines_append_cons hfirst,
        withoutReturn_append_cons hgap.2 hreturn]

/-- Whether a line closes a container is told by its first character that is not blank. -/
theorem closes_append_cons {gap : List Char} (hgap : ∀ d ∈ gap, Text.isBlank d = true) {c : Char}
    (hc : Text.isBlank c = false) (rest : List Char) :
    closes (gap ++ c :: rest) = (c == '}' || c == ']') := by
  rw [closes, Text.trimStart_append hgap (Text.stops_cons.mpr hc)]

/-- Whether a line takes a comma is told by its last character. -/
theorem takesComma_concat {c : Char} (hc : Text.isBlank c = false) (cs : List Char) :
    takesComma (cs ++ [c]) = !(c == '{' || c == '[' || c == ',') := by
  rw [takesComma, Text.trimEnd, Text.dropEndWhile_concat hc, List.getLast?_concat]

/-- A text on one line stays as it is. -/
theorem withTrailingCommas_of_isLine {line : List Char} (hline : IsLine line) :
    withTrailingCommas line = line := by
  cases line with
  | nil => rfl
  | cons c line =>
      rw [withTrailingCommas, shownLines_of_not_mem hline.1 (by simp), withCommas,
        List.intercalate_singleton]
      simp

/-- Commas do not make lines vanish. -/
theorem exists_withCommas (line : List Char) (lines : List (List Char)) :
    ∃ next others, withCommas (line :: lines) = next :: others := by
  cases lines with
  | nil => exact ⟨_, _, rfl⟩
  | cons next lines => exact ⟨_, _, rfl⟩

/-- A line gets its comma from its own end and from the start of the next line. -/
theorem withTrailingCommas_append_cons {line : List Char} (hline : IsLine line) {gap : List Char}
    (hgap : IsLine gap) (hblank : ∀ d ∈ gap, Text.isBlank d = true) {c : Char}
    (hc : Text.isBlank c = false) (more : List Char) :
    withTrailingCommas (line ++ '\n' :: (gap ++ c :: more)) =
      (if (c == '}' || c == ']') && takesComma line then line ++ [','] else line) ++
        '\n' :: withTrailingCommas (gap ++ c :: more) := by
  obtain ⟨rest, lines, hlines⟩ := exists_shownLines hgap hc more
  rw [withTrailingCommas, withTrailingCommas, shownLines_append_cons hline.1,
    withoutReturn_of_not_mem hline.2, hlines, withCommas, closes_append_cons hblank hc]
  obtain ⟨next, others, hnext⟩ := exists_withCommas (gap ++ c :: rest) lines
  rw [hnext, List.intercalate_cons_cons, List.append_assoc, List.singleton_append]

/-! ### Texts with places in them -/

/-- A text with places in it, at which something else stands in the text. -/
abbrev Marked := List (Option Char)

/-- The text with something put at each of its places. -/
def Marked.fill (at' : List Char) (t : Marked) : List Char :=
  t.flatMap fun c? => match c? with
    | some c => [c]
    | none => at'

mutual

/-- The text of a value with a place directly behind the last member of every object and the last
item of every array. -/
def marked (sp : Spacing) (level : Nat) : Value → Marked
  | .array (v :: vs) =>
    ('[' :: sp.lineBreak (level + 1)).map some ++
      (marked sp (level + 1) v ++ markedItems sp (level + 1) vs) ++
        none :: (sp.lineBreak level ++ [']']).map some
  | .object ((k, v) :: ms) =>
    ('{' :: (sp.lineBreak (level + 1) ++ (writeString k ++ ':' :: sp.afterColon))).map some ++
      (marked sp (level + 1) v ++ markedMembers sp (level + 1) ms) ++
        none :: (sp.lineBreak level ++ ['}']).map some
  | v => (write sp level v).map some

/-- Further items of an array, each with its comma. -/
def markedItems (sp : Spacing) (level : Nat) : List Value → Marked
  | [] => []
  | v :: vs =>
    (',' :: sp.lineBreak level).map some ++ (marked sp level v ++ markedItems sp level vs)

/-- Further members of an object, each with its comma. -/
def markedMembers (sp : Spacing) (level : Nat) : List (String × Value) → Marked
  | [] => []
  | (k, v) :: ms =>
    (',' :: (sp.lineBreak level ++ (writeString k ++ ':' :: sp.afterColon))).map some ++
      (marked sp level v ++ markedMembers sp level ms)

end

/-- Whether a value is an object with members or an array with items. -/
def hasEntries : Value → Bool
  | .array vs => !vs.isEmpty
  | .object ms => !ms.isEmpty
  | _ => false

/-- The induction over the values by their entries: a value without entries, an array with a first
item, an object with a first member. -/
theorem hasEntries_induct {motive : Value → Prop}
    (leaf : ∀ v, hasEntries v = false → motive v)
    (array : ∀ v vs, (∀ w ∈ v :: vs, motive w) → motive (.array (v :: vs)))
    (object : ∀ m ms, (∀ m' ∈ m :: ms, motive m'.2) → motive (.object (m :: ms))) (v : Value) :
    motive v := by
  induction v using Value.induct with
  | null => exact leaf _ rfl
  | bool b => exact leaf _ rfl
  | number n => exact leaf _ rfl
  | string s => exact leaf _ rfl
  | array vs ih =>
      cases vs with
      | nil => exact leaf _ rfl
      | cons v vs => exact array v vs ih
  | object ms ih =>
      cases ms with
      | nil => exact leaf _ rfl
      | cons m ms => exact object m ms fun m' hm => ih m'.1 m'.2 hm

/-- Only the text of a container with entries has places. -/
theorem marked_of_hasEntries {v : Value} (h : hasEntries v = false) (sp : Spacing) (level : Nat) :
    marked sp level v = (write sp level v).map some := by
  unfold marked
  split
  · exact absurd h (by simp [hasEntries])
  · exact absurd h (by simp [hasEntries])
  · rfl

/-- The text of a container with entries has a place. -/
theorem none_mem_marked {v : Value} (h : hasEntries v = true) (sp : Spacing) (level : Nat) :
    none ∈ marked sp level v := by
  unfold marked
  split
  · exact List.mem_append_right _ (List.mem_cons_self ..)
  · exact List.mem_append_right _ (List.mem_cons_self ..)
  · next harray hobject =>
      match v, h, harray, hobject with
      | .array (v :: vs), _, harray, _ => exact (harray v vs rfl).elim
      | .object ((k, v) :: ms), _, _, hobject => exact (hobject k v ms rfl).elim

namespace Marked

variable (at' : List Char)

/-- Parts of a text are filled one by one. -/
@[simp] theorem fill_append (s t : Marked) : (s ++ t).fill at' = s.fill at' ++ t.fill at' :=
  List.flatMap_append

/-- In a text without places nothing is filled. -/
@[simp] theorem fill_map_some (cs : List Char) : Marked.fill at' (cs.map some) = cs := by
  rw [fill, List.flatMap_map]
  exact List.flatMap_singleton' cs

/-- A character of the text stays. -/
@[simp] theorem fill_some_cons (c : Char) (t : Marked) :
    Marked.fill at' (some c :: t) = c :: t.fill at' := rfl

/-- A place is filled. -/
@[simp] theorem fill_none_cons (t : Marked) : Marked.fill at' (none :: t) = at' ++ t.fill at' := rfl

/-- Every place is one comma. -/
theorem length_fill_comma (t : Marked) :
    (t.fill [',']).length = (t.fill []).length + t.count none := by
  induction t with
  | nil => rfl
  | cons c? t ih =>
      cases c? with
      | none =>
          simp only [fill_none_cons, List.length_append, ih, List.count_cons_self,
            List.length_singleton, List.length_nil]
          omega
      | some c =>
          simp only [fill_some_cons, List.length_cons, ih,
            List.count_cons_of_ne (Option.some_ne_none c)]
          omega

end Marked

/-! ### The layout of containers -/

/-- A container with entries, each on a line of its own, and with an ending behind the last one. -/
def enclosed (sp : Spacing) (level : Nat) (opening closing : Char) (ending : List Char)
    (entries : List (List Char)) : List Char :=
  opening :: (sp.lineBreak (level + 1) ++ ((',' :: sp.lineBreak (level + 1)).intercalate entries ++
    (ending ++ (sp.lineBreak level ++ [closing]))))

/-- The text of a member, of which `text` is the text of the value. -/
def entry (sp : Spacing) (k : String) (text : List Char) : List Char :=
  writeString k ++ ':' :: (sp.afterColon ++ text)

/-- What is written with a separator before each further element is written with the separator
between the elements. -/
theorem append_eq_intercalate {α : Type} (sep : List Char) (f : α → List Char)
    (g : List α → List Char) (hnil : g [] = []) (hcons : ∀ a as, g (a :: as) = sep ++ (f a ++ g as))
    (a : α) (as : List α) : f a ++ g as = sep.intercalate ((a :: as).map f) := by
  induction as generalizing a with
  | nil => simp [hnil]
  | cons b as ih =>
      simp only [hcons, ih, List.map_cons, List.intercalate_cons_cons, List.append_assoc]

section Layout

variable (sp : Spacing) (level : Nat)

/-- An array has its items on lines of their own. -/
theorem write_array_cons (v : Value) (vs : List Value) :
    write sp level (.array (v :: vs)) =
      enclosed sp level '[' ']' [] ((v :: vs).map (write sp (level + 1))) := by
  have hitems := append_eq_intercalate (',' :: sp.lineBreak (level + 1)) (write sp (level + 1))
    (writeItems sp (level + 1)) rfl (fun _ _ => rfl) v vs
  rw [write, enclosed, ← hitems]
  simp

/-- An object has its members on lines of their own. -/
theorem write_object_cons (m : String × Value) (ms : Members) :
    write sp level (.object (m :: ms)) =
      enclosed sp level '{' '}' []
        ((m :: ms).map fun m => entry sp m.1 (write sp (level + 1) m.2)) := by
  have hmembers := append_eq_intercalate (',' :: sp.lineBreak (level + 1))
    (fun m : String × Value => entry sp m.1 (write sp (level + 1) m.2))
    (writeMembers sp (level + 1)) rfl (fun m ms => by simp [writeMembers, entry]) m ms
  rw [write, enclosed, ← hmembers]
  simp [entry]

variable (at' : List Char)

/-- What is put behind the items of an array stands behind the last one. -/
theorem fill_marked_array_cons (v : Value) (vs : List Value) :
    (marked sp level (.array (v :: vs))).fill at' =
      enclosed sp level '[' ']' at'
        ((v :: vs).map fun v => (marked sp (level + 1) v).fill at') := by
  have hitems := append_eq_intercalate (',' :: sp.lineBreak (level + 1))
    (fun v => (marked sp (level + 1) v).fill at')
    (fun vs => (markedItems sp (level + 1) vs).fill at') rfl
    (fun v vs => by simp only [markedItems, Marked.fill_append, Marked.fill_map_some]) v vs
  rw [enclosed, ← hitems]
  simp only [marked, Marked.fill_append, Marked.fill_map_some, Marked.fill_none_cons,
    List.cons_append, List.append_assoc]

/-- What is put behind the members of an object stands behind the last one. -/
theorem fill_marked_object_cons (m : String × Value) (ms : Members) :
    (marked sp level (.object (m :: ms))).fill at' =
      enclosed sp level '{' '}' at'
        ((m :: ms).map fun m => entry sp m.1 ((marked sp (level + 1) m.2).fill at')) := by
  have hmembers := append_eq_intercalate (',' :: sp.lineBreak (level + 1))
    (fun m : String × Value => entry sp m.1 ((marked sp (level + 1) m.2).fill at'))
    (fun ms => (markedMembers sp (level + 1) ms).fill at') rfl
    (fun m ms => by
      simp [markedMembers, entry, -List.map_cons, -List.map_append]) m ms
  rw [enclosed, ← hmembers]
  simp only [marked, Marked.fill_append, Marked.fill_map_some, Marked.fill_none_cons, entry,
    List.cons_append, List.append_assoc]

end Layout

/-- **A text whose places stay empty** is the written text. -/
theorem fill_nil_marked (sp : Spacing) (level : Nat) (v : Value) :
    (marked sp level v).fill [] = write sp level v := by
  induction v using hasEntries_induct generalizing level with
  | leaf v hv => rw [marked_of_hasEntries hv, Marked.fill_map_some]
  | array v vs ih =>
      rw [fill_marked_array_cons, write_array_cons]
      exact congrArg _ (List.map_congr_left fun w hw => ih w hw (level + 1))
  | object m ms ih =>
      rw [fill_marked_object_cons, write_object_cons]
      refine congrArg _ (List.map_congr_left fun m' hm => ?_)
      rw [ih m' hm]

/-! ### What becomes of a text -/

/-- What is to stand behind a line that takes a comma, for what stands behind it. -/
def Continues (rest rest' : List Char) : Prop :=
  ∀ line, IsLine line → takesComma line = true →
    withTrailingCommas (line ++ rest) = line ++ rest'

/-- What becomes of a text, wherever in a line it begins and whatever stands behind it. -/
def Becomes (t t' : List Char) : Prop :=
  ∀ lead rest rest', IsLine lead → Continues rest rest' →
    withTrailingCommas (lead ++ (t ++ rest)) = lead ++ (t' ++ rest')

/-- A text begins neither with a blank nor with a closing bracket. -/
def BeginsEntry (t : List Char) : Prop :=
  ∃ c cs, t = c :: cs ∧ Text.isBlank c = false ∧ (c == '}' || c == ']') = false

/-- What stands in front of a line of the text. -/
def IsIndentation (gap : List Char) : Prop := ∀ c ∈ gap, c = ' ' ∨ c = '\t'

/-- Nothing stands behind the last line. -/
theorem continues_nil : Continues [] [] := by
  intro line hline _
  rw [List.append_nil, withTrailingCommas_of_isLine hline]

/-- How a text begins does not depend on what follows. -/
theorem BeginsEntry.append {t : List Char} (h : BeginsEntry t) (more : List Char) :
    BeginsEntry (t ++ more) := by
  obtain ⟨c, cs, rfl, hc⟩ := h
  exact ⟨c, cs ++ more, rfl, hc⟩

/-- What stands before a text on its line does not matter. -/
theorem Becomes.append_left {t t' label : List Char} (h : Becomes t t') (hlabel : IsLine label) :
    Becomes (label ++ t) (label ++ t') := by
  intro lead rest rest' hlead hrest
  have hline := h (lead ++ label) rest rest' (isLine_append.mpr ⟨hlead, hlabel⟩) hrest
  simpa only [List.append_assoc] using hline

/-- A piece of a line stays as it is. -/
theorem becomes_concat (cs : List Char) {c : Char} (hline : IsLine (cs ++ [c]))
    (hblank : Text.isBlank c = false) (hc : (c == '{' || c == '[' || c == ',') = false) :
    Becomes (cs ++ [c]) (cs ++ [c]) := by
  intro lead rest rest' hlead hrest
  have htakes : takesComma (lead ++ (cs ++ [c])) = true := by
    rw [← List.append_assoc, takesComma_concat hblank, hc, Bool.not_false]
  have htext := hrest _ (isLine_append.mpr ⟨hlead, hline⟩) htakes
  simpa only [List.append_assoc] using htext

section Indentation

variable {gap : List Char} (hgap : IsIndentation gap)

include hgap

/-- An indentation is blank. -/
theorem IsIndentation.isBlank : ∀ c ∈ gap, Text.isBlank c = true := by
  intro c hc
  rcases hgap c hc with rfl | rfl <;> decide

/-- There is no line end in an indentation. -/
theorem IsIndentation.isLine : IsLine gap := by
  refine ⟨fun hmem => ?_, fun hmem => ?_⟩
  · exact (hgap _ hmem).elim (by decide) (by decide)
  · exact (hgap _ hmem).elim (by decide) (by decide)

/-- **A closing bracket on a line of its own** puts a comma behind the line before it. -/
theorem continues_close {c : Char} (hc : c = '}' ∨ c = ']') {rest rest' : List Char}
    (hrest : Continues rest rest') :
    Continues ('\n' :: (gap ++ c :: rest)) (',' :: '\n' :: (gap ++ c :: rest')) := by
  intro line hline htakes
  obtain ⟨hblank, hcloses, hends, hplain⟩ : Text.isBlank c = false ∧ (c == '}' || c == ']') = true ∧
      (c == '{' || c == '[' || c == ',') = false ∧ IsLine [c] := by
    rcases hc with rfl | rfl <;> decide
  have hbehind : takesComma (gap ++ [c]) = true := by
    rw [takesComma_concat hblank, hends, Bool.not_false]
  have hnext := hrest _ (isLine_append.mpr ⟨hgap.isLine, hplain⟩) hbehind
  rw [List.append_assoc, List.singleton_append, List.append_assoc, List.singleton_append] at hnext
  rw [withTrailingCommas_append_cons hline hgap.isLine hgap.isBlank hblank, hcloses, htakes, hnext]
  simp

/-- A line in front of a line that does not begin with a closing bracket stays as it is. -/
theorem withTrailingCommas_of_beginsEntry {t t' line rest rest' : List Char}
    (hbegins : BeginsEntry t) (ht : Becomes t t') (hline : IsLine line)
    (hrest : Continues rest rest') :
    withTrailingCommas (line ++ '\n' :: (gap ++ (t ++ rest))) =
      line ++ '\n' :: (gap ++ (t' ++ rest')) := by
  rw [← ht gap rest rest' hgap.isLine hrest]
  obtain ⟨c, cs, rfl, hblank, hc⟩ := hbegins
  rw [List.cons_append, withTrailingCommas_append_cons hline hgap.isLine hgap.isBlank hblank, hc]
  simp

/-- Entries of a container, the first one and the others. -/
theorem Becomes.join {e e' t t' : List Char} (he : Becomes e e') (hbegins : BeginsEntry t)
    (ht : Becomes t t') :
    Becomes (e ++ (',' :: '\n' :: gap ++ t)) (e' ++ (',' :: '\n' :: gap ++ t')) := by
  intro lead rest rest' hlead hrest
  have hcomma :
      Continues (',' :: '\n' :: gap ++ t ++ rest) (',' :: '\n' :: gap ++ t' ++ rest') := by
    intro line hline _
    have hbefore : IsLine (line ++ [',']) := isLine_append.mpr ⟨hline, by decide⟩
    have hnext := withTrailingCommas_of_beginsEntry hgap hbegins ht hbefore hrest
    simpa only [List.append_assoc, List.cons_append, List.nil_append] using hnext
  simpa only [List.append_assoc] using he lead _ _ hlead hcomma

/-- **Entries become what each of them becomes**, with the commas that are there. -/
theorem becomes_intercalate {α : Type} {f f' : α → List Char} (a : α) (as : List α)
    (h : ∀ b ∈ a :: as, BeginsEntry (f b) ∧ Becomes (f b) (f' b)) :
    BeginsEntry ((',' :: '\n' :: gap).intercalate ((a :: as).map f)) ∧
      Becomes ((',' :: '\n' :: gap).intercalate ((a :: as).map f))
        ((',' :: '\n' :: gap).intercalate ((a :: as).map f')) := by
  induction as generalizing a with
  | nil => simpa using h a
  | cons b as ih =>
      rw [List.forall_mem_cons] at h
      obtain ⟨⟨hbegins, ha⟩, h⟩ := h
      obtain ⟨hbegins', has⟩ := ih b h
      simp only [List.map_cons, List.intercalate_cons_cons, List.append_assoc] at hbegins' has ⊢
      exact ⟨hbegins.append _, ha.join hgap hbegins' has⟩

/-- **A container becomes the container of what its entries become**, with a comma behind the last
one. -/
theorem becomes_enclosed {inner : List Char} (hinner : IsIndentation inner) {opening closing : Char}
    (hopening : IsLine [opening]) (hclosing : closing = '}' ∨ closing = ']') {t t' : List Char}
    (hbegins : BeginsEntry t) (ht : Becomes t t') :
    Becomes (opening :: ('\n' :: inner ++ (t ++ ('\n' :: gap ++ [closing]))))
      (opening :: ('\n' :: inner ++ (t' ++ (',' :: '\n' :: gap ++ [closing])))) := by
  intro lead rest rest' hlead hrest
  have hline := withTrailingCommas_of_beginsEntry hinner hbegins ht
    (isLine_append.mpr ⟨hlead, hopening⟩) (continues_close hgap hclosing hrest)
  simpa only [List.append_assoc, List.cons_append, List.nil_append] using hline

end Indentation

/-! ### The texts of values -/

/-- There is no line end in what is written for a character of a string. -/
theorem isLine_escapeChar (c : Char) : IsLine (escapeChar c) := by
  have hdigit : ∀ n < 16, hexDigit n ≠ '\n' ∧ hexDigit n ≠ '\r' := by decide
  unfold escapeChar
  split_ifs with _ _ _ _ hfeed hreturn _ hcontrol
  any_goals decide
  · obtain ⟨hhigh, hhigh'⟩ := hdigit (c.toNat / 16) (by omega)
    obtain ⟨hlow, hlow'⟩ := hdigit (c.toNat % 16) (by omega)
    simp [IsLine, hhigh.symm, hhigh'.symm, hlow.symm, hlow'.symm]
  · rw [beq_iff_eq] at hfeed hreturn
    simpa [IsLine, eq_comm] using And.intro hfeed hreturn

/-- There is no line end in the text of a string. -/
theorem isLine_writeString (s : String) : IsLine (writeString s) := by
  have hescaped : IsLine (s.toList.flatMap escapeChar) := by
    constructor <;> rw [List.mem_flatMap] <;> rintro ⟨c, -, hc⟩
    · exact (isLine_escapeChar c).1 hc
    · exact (isLine_escapeChar c).2 hc
  have hquote : IsLine ['"'] := by decide
  have htext := isLine_append.mpr ⟨hquote, isLine_append.mpr ⟨hescaped, hquote⟩⟩
  exact htext

/-- A string begins with its quote. -/
theorem beginsEntry_writeString (s : String) : BeginsEntry (writeString s) :=
  ⟨'"', _, rfl, by decide, by decide⟩

/-- **A string stays as it is.** -/
theorem becomes_writeString (s : String) : Becomes (writeString s) (writeString s) :=
  becomes_concat ('"' :: s.toList.flatMap escapeChar) (isLine_writeString s) (by decide) (by decide)

/-- The text of a number is not empty. -/
theorem writeNumber_ne_nil (n : Number) : writeNumber n ≠ [] := by
  cases n with
  | integer n =>
      rw [writeNumber, toList_toString_int]
      exact List.append_ne_nil_of_right_ne_nil _ (digitsOf_ne_nil _)
  | double x =>
      obtain ⟨whole, tail, hrender, hne, -⟩ := exists_renderMagnitude (Decimal.ofFloat x)
      rw [writeNumber, Decimal.Layout.render]
      split
      · decide
      · split
        · simp
        · rw [String.toList_ofList, hrender]
          exact List.append_ne_nil_of_right_ne_nil _ (List.append_ne_nil_of_left_ne_nil hne _)

/-- Letters, digits and signs are no brackets, no commas and no line ends. -/
theorem plain_of_isNumeralChar {c : Char} (h : IsNumeralChar c) :
    (c == '}' || c == ']') = false ∧ (c == '{' || c == '[' || c == ',') = false ∧
      '\n' ≠ c ∧ '\r' ≠ c := by
  have hne : ∀ d ∈ ['}', ']', '{', '[', ',', '\n', '\r'], d ≠ c := by
    rintro d hd rfl
    simp only [List.mem_cons, List.not_mem_nil, or_false] at hd
    unfold IsNumeralChar at h
    rcases hd with rfl | rfl | rfl | rfl | rfl | rfl | rfl <;> exact absurd h (by decide)
  simpa [and_assoc, eq_comm (a := c)] using hne

/-- **Words and numbers stay as they are.** -/
theorem becomes_word {t : List Char} (hne : t ≠ []) (ht : ∀ c ∈ t, IsNumeralChar c) :
    BeginsEntry t ∧ Becomes t t := by
  have hline : IsLine t :=
    ⟨fun hmem => (plain_of_isNumeralChar (ht _ hmem)).2.2.1 rfl,
      fun hmem => (plain_of_isNumeralChar (ht _ hmem)).2.2.2 rfl⟩
  constructor
  · obtain ⟨c, cs, rfl⟩ := List.exists_cons_of_ne_nil hne
    have hc := ht c (List.mem_cons_self ..)
    exact ⟨c, cs, rfl, hc.isBlank_eq_false, (plain_of_isNumeralChar hc).1⟩
  · obtain ⟨cs, c, rfl⟩ := (List.eq_nil_or_concat t).resolve_left hne
    rw [List.concat_eq_append] at ht hline ⊢
    have hc := ht c (List.mem_concat_self ..)
    exact becomes_concat cs hline hc.isBlank_eq_false (plain_of_isNumeralChar hc).2.1

/-- The lines of a text are indented. -/
theorem isIndentation (i : Indent) (level : Nat) :
    IsIndentation (List.replicate level i.unit).flatten := by
  intro c hc
  obtain ⟨unit, hmem, hc⟩ := List.mem_flatten.mp hc
  rw [(List.mem_replicate.mp hmem).2] at hc
  cases i with
  | spaces n => exact .inl (List.mem_replicate.mp hc).2
  | tab => exact .inr (List.mem_singleton.mp hc)

/-- A container becomes the container of what its entries become, each on its line. -/
theorem becomes_enclosed_indented {α : Type} (i : Indent) (level : Nat) {opening closing : Char}
    (hopening : Text.isBlank opening = false ∧ (opening == '}' || opening == ']') = false)
    (hline : IsLine [opening]) (hclosing : closing = '}' ∨ closing = ']')
    {f f' : α → List Char} (a : α) (as : List α)
    (h : ∀ b ∈ a :: as, BeginsEntry (f b) ∧ Becomes (f b) (f' b)) :
    BeginsEntry (enclosed (.indented i) level opening closing [] ((a :: as).map f)) ∧
      Becomes (enclosed (.indented i) level opening closing [] ((a :: as).map f))
        (enclosed (.indented i) level opening closing [','] ((a :: as).map f')) := by
  have hinner := isIndentation i (level + 1)
  obtain ⟨hbegins, hentries⟩ := becomes_intercalate hinner a as h
  exact ⟨⟨opening, _, rfl, hopening⟩,
    becomes_enclosed (isIndentation i level) hinner hline hclosing hbegins hentries⟩

/-- The text of a member becomes what the text of its value becomes. -/
theorem becomes_entry (i : Indent) (k : String) {t t' : List Char} (h : Becomes t t') :
    BeginsEntry (entry (.indented i) k t) ∧
      Becomes (entry (.indented i) k t) (entry (.indented i) k t') := by
  have hlabel : IsLine (writeString k ++ [':', ' ']) :=
    isLine_append.mpr ⟨isLine_writeString k, by decide⟩
  refine ⟨(beginsEntry_writeString k).append _, ?_⟩
  simpa [entry, Spacing.indented] using h.append_left hlabel

/-- **Scalars and empty containers stay as they are.** -/
theorem becomes_write_of_hasEntries {v : Value} (h : hasEntries v = false) (sp : Spacing)
    (level : Nat) :
    BeginsEntry (write sp level v) ∧ Becomes (write sp level v) (write sp level v) := by
  have hword {t : List Char} (hne : t ≠ []) (ht : t.all Char.isAlphanum = true) :
      BeginsEntry t ∧ Becomes t t := becomes_word hne fun c hc => .inl (List.all_eq_true.mp ht c hc)
  have hempty {c d : Char} (hc : Text.isBlank c = false ∧ (c == '}' || c == ']') = false)
      (hd : IsLine [c, d] ∧ Text.isBlank d = false ∧ (d == '{' || d == '[' || d == ',') = false) :
      BeginsEntry [c, d] ∧ Becomes [c, d] [c, d] :=
    ⟨⟨c, [d], rfl, hc⟩, becomes_concat [c] hd.1 hd.2.1 hd.2.2⟩
  match v, h with
  | .null, _ => exact hword (by simp [write]) (by rw [write]; rfl)
  | .bool true, _ => exact hword (by simp [write]) (by rw [write]; rfl)
  | .bool false, _ => exact hword (by simp [write]) (by rw [write]; rfl)
  | .number n, _ =>
      rw [write]
      exact becomes_word (writeNumber_ne_nil n) (isNumeralChar_of_mem_writeNumber n)
  | .string s, _ =>
      rw [write]
      exact ⟨beginsEntry_writeString s, becomes_writeString s⟩
  | .array [], _ =>
      rw [write]
      exact hempty (by decide) (by decide)
  | .object [], _ =>
      rw [write]
      exact hempty (by decide) (by decide)

/-- **The text of a value becomes the text with commas at its places**, at every level. -/
theorem becomes_write (i : Indent) (level : Nat) (v : Value) :
    BeginsEntry (write (.indented i) level v) ∧
      Becomes (write (.indented i) level v) ((marked (.indented i) level v).fill [',']) := by
  induction v using hasEntries_induct generalizing level with
  | leaf v hv =>
      rw [marked_of_hasEntries hv, Marked.fill_map_some]
      exact becomes_write_of_hasEntries hv _ level
  | array v vs ih =>
      rw [write_array_cons, fill_marked_array_cons]
      exact becomes_enclosed_indented i level (by decide) (by decide) (.inr rfl) v vs
        fun w hw => ih w hw (level + 1)
  | object m ms ih =>
      rw [write_object_cons, fill_marked_object_cons]
      exact becomes_enclosed_indented i level (by decide) (by decide) (.inl rfl) m ms
        fun m' hm => becomes_entry i m'.1 (ih m' hm (level + 1)).2

/-! ### Trailing commas -/

/-- **The text of a value gets its commas at its places.** -/
theorem withTrailingCommas_write (i : Indent) (level : Nat) (v : Value) :
    withTrailingCommas (write (.indented i) level v) =
      (marked (.indented i) level v).fill [','] := by
  simpa using (becomes_write i level v).2 [] [] [] (by decide) continues_nil

/-- **The commas are exactly at the places.** The indented text of a value, with nothing at its
places, gets a comma at each of them and no other change; there is none exactly in the text of a
scalar or of an empty container. -/
theorem addTrailingCommas_stringify (v : Value) (indent : Indent) :
    stringify v indent = String.ofList ((marked (.indented indent) 0 v).fill []) ∧
      addTrailingCommas (stringify v indent) =
        String.ofList ((marked (.indented indent) 0 v).fill [',']) ∧
      (addTrailingCommas (stringify v indent) = stringify v indent ↔ hasEntries v = false) := by
  have hplain : stringify v indent = String.ofList ((marked (.indented indent) 0 v).fill []) := by
    rw [stringify, fill_nil_marked]
  have hcommas : addTrailingCommas (stringify v indent) =
      String.ofList ((marked (.indented indent) 0 v).fill [',']) := by
    rw [addTrailingCommas, stringify, String.toList_ofList, ← withTrailingCommas_write]
    rfl
  refine ⟨hplain, hcommas, fun heq => ?_, fun h => ?_⟩
  · rw [hcommas, hplain, String.ofList_inj] at heq
    have hlength := congrArg List.length heq
    rw [Marked.length_fill_comma] at hlength
    by_contra h
    rw [Bool.not_eq_false] at h
    have hplace := List.count_pos_iff.mpr (none_mem_marked h (.indented indent) 0)
    omega
  · rw [hcommas, hplain, marked_of_hasEntries h, Marked.fill_map_some, Marked.fill_map_some]

end JsonWorkbench.Json
