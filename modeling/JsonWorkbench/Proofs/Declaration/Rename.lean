import JsonWorkbench.Proofs.Declaration.FieldName
import JsonWorkbench.Proofs.Hexadecimal

/-!
# The Key That a Field Stands for

A field of a structure in Rust stands for the key of its name, or for the one that a literal in
front of it names. Only the quotes of a key are escaped in that literal, so it has to be read as
the language does to say which key it names. The reader goes through the literal character by
character and gives at most one character for each. A backslash of the key is read as the start
of an escape and gives nothing, and neither does a carriage return; so behind one of them the
literal has too few characters left for the key. A key with neither is read back as it is.

## Main definitions

* `LiteralState.step`, `readLiteral` — the reader of string literals.
* `serdeName?` — the key that a field in Rust stands for.

## Main results

* `readLiteral_quoted`, `readLiteral_quoted_length_lt` — what is read of a key.
* `serdeName?_render` — the fields that stand for their keys.
-/

namespace JsonWorkbench

/-! ### String literals -/

/-- Where the reader of a string literal is. -/
inductive LiteralState where
  /-- Between two characters. -/
  | text
  /-- Behind a carriage return, which has to be followed by a line feed. -/
  | carriage
  /-- Behind a backslash. -/
  | escape
  /-- Behind a backslash and a carriage return. -/
  | escapedCarriage
  /-- In the blanks behind a backslash at the end of a line. -/
  | gap
  /-- Behind `\x` and some of its two digits. -/
  | byte (digits : List Char)
  /-- Behind `\u`. -/
  | mark
  /-- Between the braces behind `\u`. -/
  | code (digits : List Char)
  deriving Repr, DecidableEq

namespace LiteralState

/-- A quote ends the literal here. -/
def isOpen : LiteralState → Bool
  | .text | .gap => true
  | _ => false

/-- The characters that are named by one character behind a backslash. -/
def shortEscapes : List (Char × Char) :=
  [('n', '\n'), ('r', '\r'), ('t', '\t'), ('\\', '\\'), ('0', '\x00'), ('\'', '\''), ('"', '"')]

/-- The reader behind one more character, and the character that is complete with it, if any. -/
def step : LiteralState → Char → Option (LiteralState × Option Char)
  | .text, c =>
    if c = '\\' then some (.escape, none)
    else if c = '\r' then some (.carriage, none)
    else some (.text, some c)
  | .carriage, c => if c = '\n' then some (.text, some c) else none
  | .escape, c =>
    match shortEscapes.lookup c with
    | some d => some (.text, some d)
    | none =>
      if c = 'x' then some (.byte [], none)
      else if c = 'u' then some (.mark, none)
      else if c = '\n' then some (.gap, none)
      else if c = '\r' then some (.escapedCarriage, none)
      else none
  | .escapedCarriage, c => if c = '\n' then some (.gap, none) else none
  | .gap, c =>
    if c = ' ' || c = '\t' || c = '\n' || c = '\r' then some (.gap, none)
    else if c = '\\' then some (.escape, none)
    else some (.text, some c)
  | .byte [], c => if '0' ≤ c && c ≤ '7' then some (.byte [c], none) else none
  | .byte digits, c =>
    (Text.hexNumber? (digits ++ [c])).map fun n => (.text, some (Char.ofNat n))
  | .mark, c => if c = '\x7b' then some (.code [], none) else none
  | .code digits, c =>
    if c = '\x7d' && !digits.isEmpty then
      ((Text.hexNumber? digits).bind Text.scalar?).map fun d => (.text, some d)
    else if c = '_' && !digits.isEmpty then some (.code digits, none)
    else if (Text.hexValue? c).isSome && digits.length < 6 then some (.code (digits ++ [c]), none)
    else none

end LiteralState

/-- Reads a string literal up to its closing quote: what it denotes, and what stands behind it. -/
def readLiteral : LiteralState → List Char → Option (List Char × List Char)
  | _, [] => none
  | s, c :: cs =>
    if c = '"' && s.isOpen then some ([], cs)
    else
      (s.step c).bind fun (s', d) =>
        (readLiteral s' cs).map fun (content, rest) => (d.toList ++ content, rest)

/-- The escapes of a literal: characters by their numbers, quotes, and the end of a line. -/
example : readLiteral .text
    "a\\u\x7b41\x7d\\x42\\\"\\\n  c\" more".toList = some ("aAB\"c".toList, " more".toList) := by
  decide

/-! ### Backslashes and quotes -/

namespace LiteralState

/-- Only digits stand behind `\x`. -/
theorem step_byte {c : Char} (hc : Text.hexValue? c = none) (digits : List Char) :
    (byte digits).step c = none := by
  cases digits with
  | nil =>
      have hoctal : ¬(('0' ≤ c && c ≤ '7') = true) := by
        intro h
        rw [Bool.and_eq_true, decide_eq_true_eq, decide_eq_true_eq] at h
        have hdigit : c.isDigit = true := by
          rw [Char.isDigit, Bool.and_eq_true, decide_eq_true_eq, decide_eq_true_eq]
          exact ⟨h.1, Nat.le_trans h.2 (by decide)⟩
        simp [Text.hexValue?, hdigit] at hc
      rw [step, if_neg hoctal]
  | cons d ds =>
      have hnone : Text.hexNumber? (d :: (ds ++ [c])) = none := by
        rw [← List.cons_append, Text.hexNumber?_append, hc]
        simp
      simp [step, hnone]

/-- Only digits and underscores stand between the braces behind `\u`. -/
theorem step_code {c : Char} (hc : Text.hexValue? c = none) (hclose : c ≠ '\x7d') (hline : c ≠ '_')
    (digits : List Char) : (code digits).step c = none := by
  simp [step, hc, hclose, hline]

/-- A backslash begins an escape or ends one. -/
theorem step_backslash {s s' : LiteralState} {d : Option Char}
    (h : s.step '\\' = some (s', d)) :
    (s' = .escape ∧ d = none) ∨ (s' = .text ∧ d = some '\\') := by
  cases s with
  | text | gap =>
      obtain ⟨rfl, rfl⟩ := Prod.mk.inj (Option.some.inj h)
      exact .inl ⟨rfl, rfl⟩
  | escape =>
      obtain ⟨rfl, rfl⟩ := Prod.mk.inj (Option.some.inj h)
      exact .inr ⟨rfl, rfl⟩
  | carriage | escapedCarriage | mark => exact nomatch h
  | byte digits =>
      rw [step_byte (by decide) digits] at h
      exact nomatch h
  | code digits =>
      rw [step_code (by decide) (by decide) (by decide) digits] at h
      exact nomatch h

/-- A quote that does not end the literal ends an escape. -/
theorem step_quote {s s' : LiteralState} {d : Option Char} (hs : s.isOpen = false)
    (h : s.step '"' = some (s', d)) : s' = .text ∧ d = some '"' := by
  cases s with
  | text | gap => exact Bool.noConfusion hs
  | escape =>
      obtain ⟨rfl, rfl⟩ := Prod.mk.inj (Option.some.inj h)
      exact ⟨rfl, rfl⟩
  | carriage | escapedCarriage | mark => exact nomatch h
  | byte digits =>
      rw [step_byte (by decide) digits] at h
      exact nomatch h
  | code digits =>
      rw [step_code (by decide) (by decide) (by decide) digits] at h
      exact nomatch h

end LiteralState

/-! ### Reading a key -/

section Characters

variable {s s' : LiteralState} {c : Char} {cs content rest : List Char}

/-- A character that does not end the literal gives what the step gives, and the rest is read from
there. -/
theorem readLiteral_cons {d : Option Char} (hc : (c = '"' && s.isOpen) = false)
    (hstep : s.step c = some (s', d)) (h : readLiteral s' cs = some (content, rest)) :
    readLiteral s (c :: cs) = some (d.toList ++ content, rest) := by
  rw [readLiteral, hc, if_neg Bool.false_ne_true, hstep, Option.bind_some]
  simp only [h, Option.map_some]

/-- What is read from a character on that does not end the literal. -/
theorem exists_of_readLiteral_cons (hc : (c = '"' && s.isOpen) = false)
    (h : readLiteral s (c :: cs) = some (content, rest)) :
    ∃ s' d content', s.step c = some (s', d) ∧ readLiteral s' cs = some (content', rest) ∧
      content = d.toList ++ content' := by
  rw [readLiteral, hc, if_neg Bool.false_ne_true] at h
  obtain ⟨⟨s', d⟩, hstep, hread⟩ := Option.bind_eq_some_iff.mp h
  obtain ⟨⟨content', rest'⟩, hrest, heq⟩ := Option.map_eq_some_iff.mp hread
  obtain ⟨rfl, rfl⟩ := Prod.mk.inj heq
  exact ⟨s', d, content', hstep, hrest, rfl⟩

/-- Nothing is read when the literal ends. -/
theorem eq_nil_of_readLiteral_quote (hs : s.isOpen = true)
    (h : readLiteral s ('"' :: cs) = some (content, rest)) : content = [] := by
  rw [readLiteral, hs, if_pos (by rfl)] at h
  exact (Prod.mk.inj (Option.some.inj h)).1.symm

end Characters

/-- A literal ends with a quote. -/
theorem mem_of_readLiteral {s : LiteralState} {cs content rest : List Char}
    (h : readLiteral s cs = some (content, rest)) : '"' ∈ cs := by
  induction cs generalizing s content with
  | nil => exact nomatch h
  | cons c cs ih =>
      by_cases hc : c = '"'
      · exact hc ▸ List.mem_cons_self ..
      · obtain ⟨_, _, _, -, hread, -⟩ := exists_of_readLiteral_cons (by simp [hc]) h
        exact List.mem_cons_of_mem c (ih hread)

/-- A key with a backslash in front of every quote. -/
def quoted (key : List Char) : List Char :=
  key.flatMap fun c => if c = '"' then ['\\', '"'] else [c]

/-- A quote of a key behind its backslash. -/
theorem quoted_cons_quote (key : List Char) : quoted ('"' :: key) = '\\' :: '"' :: quoted key := rfl

/-- Another character of a key. -/
theorem quoted_cons {c : Char} (hc : c ≠ '"') (key : List Char) :
    quoted (c :: key) = c :: quoted key := by
  rw [quoted, List.flatMap_cons, if_neg hc]
  rfl

variable {rest : List Char}

/-- **Not more is read of a key than it has**, from wherever the reader is. The induction is on the
key: a quote and its backslash are one character together, whether the backslash is the one in
front of the quote or ends an escape that the key has begun. -/
theorem readLiteral_quoted_length_le (hrest : '"' ∉ rest) {s : LiteralState}
    {key content behind : List Char}
    (h : readLiteral s (quoted key ++ '"' :: rest) = some (content, behind)) :
    content.length ≤ key.length := by
  induction key generalizing s content with
  | nil =>
      cases hs : s.isOpen with
      | true =>
          rw [eq_nil_of_readLiteral_quote hs h]
      | false =>
          obtain ⟨_, _, _, -, hread, -⟩ := exists_of_readLiteral_cons (by simp [hs]) h
          exact absurd (mem_of_readLiteral hread) hrest
  | cons c key ih =>
      by_cases hc : c = '"'
      · subst hc
        rw [quoted_cons_quote] at h
        obtain ⟨s', d, content', hstep, hread, rfl⟩ := exists_of_readLiteral_cons (by simp) h
        rcases LiteralState.step_backslash hstep with ⟨rfl, rfl⟩ | ⟨rfl, rfl⟩
        · obtain ⟨s'', d', content'', -, hread', rfl⟩ := exists_of_readLiteral_cons (by rfl) hread
          have hle := ih hread'
          have hone : d'.toList.length ≤ 1 := Option.length_toList_le
          rw [Option.toList_none, List.nil_append, List.length_append, List.length_cons]
          omega
        · rw [eq_nil_of_readLiteral_quote rfl hread]
          simp
      · rw [quoted_cons hc] at h
        obtain ⟨s', d, content', -, hread, rfl⟩ := exists_of_readLiteral_cons (by simp [hc]) h
        have hle := ih hread
        have hone : d.toList.length ≤ 1 := Option.length_toList_le
        rw [List.length_append, List.length_cons]
        omega

/-- A key without backslashes and carriage returns is read back. -/
theorem readLiteral_quoted {key : List Char} (hslash : '\\' ∉ key) (hreturn : '\r' ∉ key)
    (rest : List Char) : readLiteral .text (quoted key ++ '"' :: rest) = some (key, rest) := by
  induction key with
  | nil => rfl
  | cons c key ih =>
      rw [List.mem_cons, not_or] at hslash hreturn
      have hread := ih hslash.2 hreturn.2
      by_cases hc : c = '"'
      · subst hc
        have hquote : readLiteral .escape ('"' :: (quoted key ++ '"' :: rest)) =
            some ('"' :: key, rest) := readLiteral_cons (d := some '"') rfl rfl hread
        exact readLiteral_cons (d := none) rfl rfl hquote
      · have hstep : LiteralState.text.step c = some (.text, some c) := by
          rw [LiteralState.step, if_neg (Ne.symm hslash.1), if_neg (Ne.symm hreturn.1)]
        rw [quoted_cons hc]
        exact readLiteral_cons (by simp [hc]) hstep hread

/-- **Less is read of a key than it has** if it has a backslash or a carriage return. -/
theorem readLiteral_quoted_length_lt (hrest : '"' ∉ rest) {key content behind : List Char}
    (hkey : '\\' ∈ key ∨ '\r' ∈ key)
    (h : readLiteral .text (quoted key ++ '"' :: rest) = some (content, behind)) :
    content.length < key.length := by
  induction key generalizing content with
  | nil => simp at hkey
  | cons c key ih =>
      by_cases hc : c = '"'
      · subst hc
        replace hkey : '\\' ∈ key ∨ '\r' ∈ key := by simpa using hkey
        rw [quoted_cons_quote] at h
        obtain ⟨s', d, content', hstep, hread, rfl⟩ := exists_of_readLiteral_cons (by rfl) h
        obtain ⟨rfl, rfl⟩ := Prod.mk.inj (Option.some.inj hstep)
        obtain ⟨s', d, content'', hstep', hread', rfl⟩ := exists_of_readLiteral_cons (by rfl) hread
        obtain ⟨rfl, rfl⟩ := Prod.mk.inj (Option.some.inj hstep')
        have hlt := ih hkey hread'
        simpa using hlt
      · rw [quoted_cons hc] at h
        obtain ⟨s', d, content', hstep, hread, rfl⟩ := exists_of_readLiteral_cons (by simp [hc]) h
        by_cases hlost : c = '\\' ∨ c = '\r'
        · have hle := readLiteral_quoted_length_le hrest hread
          have hnone : d = none := by
            rcases hlost with rfl | rfl
            · exact (Prod.mk.inj (Option.some.inj hstep)).2.symm
            · exact (Prod.mk.inj (Option.some.inj hstep)).2.symm
          rw [hnone, List.length_cons]
          exact Nat.lt_succ_of_le hle
        · rw [not_or] at hlost
          rw [LiteralState.step, if_neg hlost.1, if_neg hlost.2] at hstep
          obtain ⟨rfl, rfl⟩ := Prod.mk.inj (Option.some.inj hstep)
          have hlt := ih (by simpa [Ne.symm hlost.1, Ne.symm hlost.2] using hkey) hread
          simpa using hlt

/-- **What is read of a key**: it is the key exactly if this has no backslash and no carriage
return. -/
theorem readLiteral_quoted_iff (hrest : '"' ∉ rest) {key : List Char} :
    (∃ behind, readLiteral .text (quoted key ++ '"' :: rest) = some (key, behind)) ↔
      '\\' ∉ key ∧ '\r' ∉ key := by
  constructor
  · rintro ⟨behind, h⟩
    rw [← not_or]
    intro hkey
    exact absurd (readLiteral_quoted_length_lt hrest hkey h) (Nat.lt_irrefl _)
  · rintro ⟨hslash, hreturn⟩
    exact ⟨rest, readLiteral_quoted hslash hreturn rest⟩

/-! ### Fields -/

/-- What stands in front of the literal of a field. -/
def renameStart : String := "    #[serde(rename = \""

/-- What stands behind the literal, and in front of the name. -/
def renameEnd : String := ")]\n"

/-- What stands in front of the name of a field. -/
def fieldStart : String := "    pub "

/-- The key that the text of a field in Rust stands for: what the literal denotes, or the name of
the field without its mark. -/
def serdeName? (text : List Char) : Option (List Char) :=
  match Text.afterStart? renameStart.toList text with
  | some literal =>
    (readLiteral .text literal).bind fun (content, rest) =>
      if renameEnd.toList.isPrefixOf rest then some content else none
  | none =>
    (Text.afterStart? fieldStart.toList text).map fun rest =>
      withoutMark (rest.takeWhile (· ≠ ':'))

/-- The type of a field as it is written. -/
def Declaration.Field.shownType (f : Declaration.Field) : String :=
  if f.isOptional then "Option<" ++ f.type.text .rust ++ ">" else f.type.text .rust

/-- The line of a field itself. -/
def Declaration.Field.line (f : Declaration.Field) : String :=
  fieldStart ++ f.name .rust ++ ": " ++ f.shownType ++ ",\n"

/-- A field is its line, with the literal in front of it if its name does not say the key. -/
theorem toList_render (f : Declaration.Field) :
    (f.render .rust).toList =
      (if needsRename f.key then
        renameStart.toList ++ (quoted f.key.toList ++ '"' :: renameEnd.toList) else []) ++
      f.line.toList := by
  have hrender : f.render .rust =
      (if needsRename f.key then "    #[serde(rename = " ++ renameLiteral f.key ++ ")]\n"
        else "") ++ "    pub " ++ f.name .rust ++ ": " ++ f.shownType ++ ",\n" := rfl
  have hstart : renameStart.toList = "    #[serde(rename = ".toList ++ ['"'] := rfl
  have hend : '"' :: renameEnd.toList = "\"".toList ++ ")]\n".toList := rfl
  have hliteral : (renameLiteral f.key).toList = '"' :: quoted f.key.toList ++ "\"".toList := by
    simp only [renameLiteral, String.toList_append, Text.replaceText_singleton,
      String.toList_ofList, quoted]
    rfl
  rw [hrender, Declaration.Field.line, fieldStart]
  split
  · simp only [String.toList_append, hstart, hend, hliteral, List.append_assoc, List.cons_append,
      List.nil_append]
  · simp only [String.toList_append, String.toList_empty, List.nil_append]

/-- No quote stands in a type that is written over declared names. -/
theorem not_mem_of_isTypeText {names : List String}
    (hnames : ∀ name ∈ names, ∃ key, name = pascalCase key) {text : String}
    (h : IsTypeText .rust names text) : '"' ∉ text.toList := by
  induction h with
  | basic b => cases b <;> decide
  | unknownList => decide
  | list _ ih => simp [listText, ih]
  | union hunions => exact Bool.noConfusion hunions
  | declared hname =>
      obtain ⟨key, rfl⟩ := hnames _ hname
      exact fun hmem => absurd (isNameChar_of_mem_pascalCase hmem) (by decide)

/-- No other characters than those of names, underscores and the mark stand in the name of a
field. -/
theorem mem_rustFieldName {key : String} {c : Char} (h : c ∈ (rustFieldName key).toList) :
    c = '#' ∨ c = '_' ∨ IsNameChar c := by
  have hplain : ∀ d ∈ (plainFieldName key).toList, d = '_' ∨ IsNameChar d := fun d hd =>
    isNameChar_of_mem_plainFieldName hd
  have hmark : "r#".toList.all (fun d => decide (d = '#' ∨ IsNameChar d)) = true := by decide
  rw [rustFieldName] at h
  split at h
  · rw [String.toList_append] at h
    rcases List.mem_append.mp h with h | h
    · exact .inr (hplain c h)
    · exact .inr (.inl (List.mem_singleton.mp h))
  · split at h
    · rw [String.toList_append] at h
      rcases List.mem_append.mp h with h | h
      · exact (of_decide_eq_true (List.all_eq_true.mp hmark c h)).imp_right .inr
      · exact .inr (hplain c h)
    · exact .inr (hplain c h)

/-- No quote stands in the line of a field. -/
theorem not_mem_line {f : Declaration.Field} (h : '"' ∉ (f.type.text .rust).toList) :
    '"' ∉ f.line.toList := by
  have hname : '"' ∉ (f.name .rust).toList := fun hmem =>
    absurd (mem_rustFieldName hmem) (by decide)
  have htype : '"' ∉ f.shownType.toList := by
    rw [Declaration.Field.shownType]
    split
    · simp [h]
    · exact h
  simp [Declaration.Field.line, fieldStart, hname, htype]

/-- A field that is renamed stands for its key if its literal denotes the key. -/
theorem serdeName?_of_needsRename {f : Declaration.Field} (hrename : needsRename f.key = true)
    (hline : '"' ∉ f.line.toList) :
    serdeName? (f.render .rust).toList = some f.key.toList ↔
      '\\' ∉ f.key.toList ∧ '\r' ∉ f.key.toList := by
  have hrest : '"' ∉ renameEnd.toList ++ f.line.toList := by
    rw [List.mem_append, not_or]
    exact ⟨by decide, hline⟩
  rw [toList_render, if_pos hrename, List.append_assoc, List.append_assoc, List.cons_append,
    serdeName?, Text.afterStart?_append, ← readLiteral_quoted_iff hrest]
  dsimp only
  constructor
  · intro h
    obtain ⟨⟨content, behind⟩, hread, hcontent⟩ := Option.bind_eq_some_iff.mp h
    obtain ⟨-, heq⟩ := Option.ite_none_right_eq_some.mp hcontent
    have hsame : content = f.key.toList := Option.some.inj heq
    exact ⟨behind, by rw [hread, hsame]⟩
  · rintro ⟨behind, hread⟩
    obtain ⟨hslash, hreturn⟩ := (readLiteral_quoted_iff hrest).mp ⟨behind, hread⟩
    rw [readLiteral_quoted hslash hreturn, Option.bind_some]
    exact if_pos (List.isPrefixOf_iff_prefix.mpr (List.prefix_append _ _))

/-- A field that is not renamed stands for its key. -/
theorem serdeName?_of_not_needsRename {f : Declaration.Field}
    (hrename : needsRename f.key = false) :
    serdeName? (f.render .rust).toList = some f.key.toList := by
  have hkey : rustPathWords.contains (plainFieldName f.key) = false ∧
      plainFieldName f.key = f.key := by
    simpa [needsRename] using hrename
  have hname : withoutMark (f.name .rust).toList = f.key.toList := by
    rw [Declaration.Field.name, Language.fieldName, withoutMark_rustFieldName, hkey.1,
      if_neg Bool.false_ne_true, List.append_nil, hkey.2]
  have hcolon : ∀ c ∈ (f.name .rust).toList, decide (c ≠ ':') = true := fun c hc => by
    rw [decide_eq_true_eq]
    rintro rfl
    exact absurd (mem_rustFieldName hc) (by decide)
  have hline : f.line.toList =
      fieldStart.toList ++ ((f.name .rust).toList ++
        ':' :: (' ' :: f.shownType.toList ++ [',', '\n'])) := by
    simp [Declaration.Field.line]
  have hother : Text.afterStart? renameStart.toList f.line.toList = none := by
    rw [hline]
    rfl
  rw [toList_render, if_neg (by simp [hrename]), List.nil_append, serdeName?, hother, hline,
    Text.afterStart?_append]
  dsimp only
  rw [Option.map_some, List.takeWhile_append_of_pos hcolon, List.takeWhile_cons_of_neg (by simp),
    List.append_nil, hname]

/-- **The keys that fields in Rust stand for.** A declaration of a document in Rust has a field for
every key of an object, and the field stands for exactly this key if the key has no backslash and
no carriage return. If it has one of them, the field stands for another key or its literal cannot
be read. -/
theorem serdeName?_render {rootName : String} {v : Value} {name : String}
    {fields : List Declaration.Field} (h : (name, fields) ∈ declarations .rust rootName v) :
    (∃ o ∈ visits .rust rootName v [],
      pascalCase o.name = name ∧ fields.map (·.key) = o.members.keys) ∧
    ∀ f ∈ fields, serdeName? (f.render .rust).toList = some f.key.toList ↔
      '\\' ∉ f.key.toList ∧ '\r' ∉ f.key.toList := by
  refine ⟨exists_visit_of_mem_declarations h, fun f hf => ?_⟩
  have hclosed := closed_declarations .rust rootName v
  cases hrename : needsRename f.key with
  | true =>
      have htype := not_mem_of_isTypeText hclosed.named (hclosed.typed name fields h f hf)
      exact serdeName?_of_needsRename hrename (not_mem_line htype)
  | false =>
      have hplain : plainFieldName f.key = f.key := by
        rw [needsRename, Bool.or_eq_false_iff] at hrename
        simpa using hrename.2
      refine ⟨fun _ => ?_, fun _ => serdeName?_of_not_needsRename hrename⟩
      rw [← hplain]
      exact ⟨fun hmem => absurd (isNameChar_of_mem_plainFieldName hmem) (by decide),
        fun hmem => absurd (isNameChar_of_mem_plainFieldName hmem) (by decide)⟩

/-- An object with a quote in one key and a backslash in another one. -/
def escapedKeys : Value := .object [("say \"hi\"", .bool true), ("a\\b", .bool true)]

/-- The fields for it. -/
def escapedFields : List Declaration.Field :=
  [⟨"say \"hi\"", .basic .boolean, false⟩, ⟨"a\\b", .basic .boolean, false⟩]

/-- The declaration of an object with both kinds of keys. -/
theorem serdeName?_render_escapedKeys :
    ("Root", escapedFields) ∈ declarations .rust "Root" escapedKeys ∧
      (∃ o ∈ visits .rust "Root" escapedKeys [],
        pascalCase o.name = "Root" ∧ escapedFields.map (·.key) = o.members.keys) ∧
      ∀ f ∈ escapedFields, serdeName? (f.render .rust).toList = some f.key.toList ↔
        '\\' ∉ f.key.toList ∧ '\r' ∉ f.key.toList := by
  have hr : declarations .rust "Root" escapedKeys = [("Root", escapedFields)] := by rfl
  have hmem : ("Root", escapedFields) ∈ declarations .rust "Root" escapedKeys := by simp [hr]
  exact ⟨hmem, serdeName?_render hmem⟩

/-- A key with a backslash is not read back: what stands behind it is no escape. -/
theorem not_forall_serdeName?_render :
    ¬∀ (rootName : String) (v : Value) (name : String) (fields : List Declaration.Field),
      v.WellFormed → (name, fields) ∈ declarations .rust rootName v →
        ∀ f ∈ fields, serdeName? (f.render .rust).toList = some f.key.toList := by
  intro h
  have hv : escapedKeys.WellFormed := by decide
  have hr : declarations .rust "Root" escapedKeys = [("Root", escapedFields)] := by rfl
  have hread : serdeName?
      ((⟨"a\\b", .basic .boolean, false⟩ : Declaration.Field).render .rust).toList = none := by rfl
  have hkey := h "Root" escapedKeys "Root" escapedFields hv (by simp [hr])
    ⟨"a\\b", .basic .boolean, false⟩ (by simp [escapedFields])
  exact absurd (hkey.symm.trans hread) (Option.some_ne_none _)

end JsonWorkbench
