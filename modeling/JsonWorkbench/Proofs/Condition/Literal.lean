import JsonWorkbench.Proofs.Condition.Conjunction
import JsonWorkbench.Proofs.Condition.Words

/-!
# Quoted Literals

The comparison of a field with a text in quotes. Before the comparison is read, the words `AND` and
`OR` between blanks become operators, and the text is cut at the operators. Neither step heeds
quotes: a word or an operator in the quoted text joins clauses like any other. A quoted text in
which there is none stands for itself, whatever else it holds: an item whose field is a text
satisfies the condition exactly if it is that text.

The words and the operators are found piece by piece: none of them has a quote or an equals sign,
so that none reaches across the sign of the comparison or out of the quotes.

## Main definitions

* `Condition.equality` — the text that compares a field with a text in quotes.

## Main results

* `readPiece_equality` — how a comparison with a quoted text is read.
* `parse_equality_iff` — which quoted texts are read whole.
* `parse_equality` — a quoted text stands for itself.
* `not_forall_parse_equality` — a quoted text that is cut at a word.
-/

namespace JsonWorkbench

namespace ConditionText

/-! ### Reading a comparison -/

/-- A letter is a character of fields that does not end a name. -/
theorem isFieldChar_of_isAlpha {c : Char} (h : c.isAlpha = true) :
    isFieldChar c = true ∧ c ≠ '.' ∧ c ≠ '[' := by
  have halpha : c.isAlphanum = true := by rw [Char.isAlphanum, h, Bool.true_or]
  have hascii : c.toNat < 0x80 := by
    have := toNat_of_isAlphanum halpha
    omega
  refine ⟨by simp [isFieldChar, isWordChar, hascii, halpha], ?_, ?_⟩ <;>
    · rintro rfl
      exact absurd h (by decide)

/-- A letter is no blank. -/
theorem isBlank_of_isAlpha {c : Char} (h : c.isAlpha = true) : Text.isBlank c = false := by
  rw [← Bool.not_eq_true]
  intro hblank
  have hchar := isFieldChar_of_isBlank hblank
  rw [(isFieldChar_of_isAlpha h).1] at hchar
  exact Bool.noConfusion hchar

section Letters

variable {field : List Char} (hne : field ≠ []) (hletters : ∀ c ∈ field, c.isAlpha = true)

include hne hletters

/-- Letters are a field. -/
theorem isField_of_letters : IsField field := by
  obtain ⟨c, more, rfl⟩ := List.exists_cons_of_ne_nil hne
  rw [List.forall_mem_cons] at hletters
  have hc := isFieldChar_of_isAlpha hletters.1
  exact ⟨c, more, rfl, .inr ⟨hc.1, hc.2.1⟩, fun d hd =>
    (isFieldChar_of_isAlpha (hletters.2 d hd)).1⟩

/-- A field of letters is the member under them. -/
theorem readField_of_letters (whole : String) :
    readField whole field = .ok [.key (String.ofList field)] := by
  obtain ⟨c, more, rfl⟩ := List.exists_cons_of_ne_nil hne
  have hname : ∀ d ∈ c :: more, d ≠ '.' ∧ d ≠ '[' := fun d hd =>
    (isFieldChar_of_isAlpha (hletters d hd)).2
  have hblank : ∀ d ∈ c :: more, Text.isBlank d = false := fun d hd =>
    isBlank_of_isAlpha (hletters d hd)
  have hc : c ≠ '@' ∧ c ≠ '$' ∧ c ≠ '.' := by
    have halpha := hletters c (List.mem_cons_self ..)
    refine ⟨?_, ?_, (hname c (List.mem_cons_self ..)).1⟩ <;>
      · rintro rfl
        exact absurd halpha (by decide)
  have htext : fieldText (c :: more) = c :: more := by simp [fieldText, hc]
  have hroot : PathText.withoutRoot (c :: more) = c :: more := by simp [PathText.withoutRoot, hc]
  rw [readField_eq, htext, if_neg (by simp)]
  exact PathText.parseSegments_name _ _ hname hblank hroot

end Letters

/-! ### Comparisons with a quoted text -/

section Quoted

variable {field s : List Char}

/-- A quoted text stands for itself. -/
theorem readLiteral_quoted (s : List Char) :
    readLiteral ('\'' :: (s ++ ['\''])) = .string (String.ofList s) := by
  have hword : ∀ c word, c ≠ '\'' →
      String.ofList ('\'' :: (s ++ ['\''])) ≠ String.ofList (c :: word) := fun c word hc heq =>
    hc (List.cons.inj (String.ofList_injective heq)).1.symm
  have htrue := hword 't' ['r', 'u', 'e'] (by decide)
  have hfalse := hword 'f' ['a', 'l', 's', 'e'] (by decide)
  have hnull := hword 'n' ['u', 'l', 'l'] (by decide)
  have hquoted : quoted? ('\'' :: (s ++ ['\''])) = some s := by simp [quoted?]
  rw [readLiteral, if_neg htrue, if_neg hfalse, if_neg hnull, hquoted]

/-- The sign of a comparison ends the field. -/
theorem spanField_equality (hfield : IsField field) (rest : List Char) :
    spanField (field ++ ' ' :: rest) = some (field, ' ' :: rest) :=
  spanField_eq_some_iff.mpr ⟨hfield, rfl, Text.stops_cons.mpr (by decide)⟩

/-- A space in front of a character that is no blank goes. -/
theorem trimStart_space {c : Char} {cs : List Char} (hc : Text.isBlank c = false) :
    Text.trimStart (' ' :: c :: cs) = c :: cs :=
  @Text.trimStart_append [' '] _ (List.forall_mem_singleton.mpr rfl) (Text.stops_cons.mpr hc)

/-- The signs of a comparison are not those of a match. -/
theorem splitMatch_equality (hfield : IsField field) (rest : List Char) :
    splitMatch (field ++ ' ' :: '=' :: '=' :: rest) = none := by
  have hsign : Text.trimStart (' ' :: '=' :: '=' :: rest) = '=' :: '=' :: rest :=
    trimStart_space rfl
  simp [splitMatch, spanField_equality hfield, hsign]

/-- The parts of a comparison with a quoted text. -/
theorem splitCompare_equality (hfield : IsField field) (hline : '\n' ∉ s) :
    splitCompare (field ++ ' ' :: '=' :: '=' :: ' ' :: '\'' :: (s ++ ['\''])) =
      some (field, .eq, '\'' :: (s ++ ['\''])) := by
  have hsign : Text.trimStart (' ' :: '=' :: '=' :: ' ' :: '\'' :: (s ++ ['\''])) =
      '=' :: '=' :: ' ' :: '\'' :: (s ++ ['\'']) :=
    trimStart_space rfl
  have hliteral : Text.trimStart (' ' :: '\'' :: (s ++ ['\''])) = '\'' :: (s ++ ['\'']) :=
    trimStart_space rfl
  simp [splitCompare, spanField_equality hfield, hsign, operatorsAt, hliteral, hline]

/-- A comparison of letters with a quoted text is read as one. -/
theorem readPiece_equality (hne : field ≠ []) (hletters : ∀ c ∈ field, c.isAlpha = true)
    (hline : '\n' ∉ s) (whole : String) :
    readPiece whole (field ++ ' ' :: '=' :: '=' :: ' ' :: '\'' :: (s ++ ['\''])) =
      .ok (.compare [.key (String.ofList field)] .eq (.string (String.ofList s))) := by
  have hfield := isField_of_letters hne hletters
  have htrim : Text.trim ('\'' :: (s ++ ['\''])) = '\'' :: (s ++ ['\'']) :=
    Text.trim_cons_concat (by decide) (by decide) s
  rw [readPiece, readMatch?, splitMatch_equality hfield, Option.map_none]
  simp only [readSimple, splitCompare_equality hfield hline, readField_of_letters hne hletters,
    htrim, readLiteral_quoted]
  rfl

end Quoted

/-! ### What is read as a comparison -/

section Compared

variable {whole : String} {cs : List Char} {field : Field} {op : CompareOp} {literal : Value}

/-- A match is not read as a comparison. -/
theorem readMatch?_ne_compare : readMatch? whole cs ≠ some (.ok (.compare field op literal)) := by
  intro h
  obtain ⟨⟨name, pattern, flags⟩, -, hread⟩ := Option.map_eq_some_iff.mp h
  dsimp only at hread
  cases hfield : readField whole name with
  | error e => simp [hfield, bind, Except.bind] at hread
  | ok f =>
      cases hpattern : readPattern whole pattern flags <;>
        simp [hfield, hpattern, bind, Except.bind] at hread

/-- What is read as a comparison has no operator that joins clauses in it. -/
theorem readJoined_eq_compare {c : Char} (hc : Text.isBlank c = false)
    {combine : List Clause → Clause} {part single : List Char → Except Error Clause}
    (hcombine : ∀ parts, combine parts ≠ .compare field op literal)
    (h : readJoined whole c combine part single cs = .ok (.compare field op literal)) :
    ¬[c, c] <:+: cs ∧ single (Text.trim cs) = .ok (.compare field op literal) := by
  unfold readJoined at h
  dsimp only at h
  split at h
  · next hmatch =>
      rw [h] at hmatch
      exact absurd hmatch readMatch?_ne_compare
  · split at h
    · obtain ⟨parts, -, hparts⟩ := map_eq_ok_iff.mp h
      exact absurd hparts (hcombine parts)
    · next hnone =>
        rw [Text.hasText_iff, Text.infix_trim_iff (by simp) (by simp [hc])] at hnone
        exact ⟨hnone, h⟩

/-- A condition that is a comparison has neither "all of" nor "any of" in its text. -/
theorem not_infix_of_readClause (h : readClause whole cs = .ok (.compare field op literal)) :
    ¬['&', '&'] <:+: cs ∧ ¬['|', '|'] <:+: cs := by
  rw [readClause_eq] at h
  obtain ⟨hall, hrest⟩ := readJoined_eq_compare (by decide) (by simp) h
  rw [readAny_trim, readAny_eq] at hrest
  exact ⟨hall, (readJoined_eq_compare (by decide) (by simp) hrest).1⟩

end Compared

end ConditionText

/-! ### Conditions on a quoted text -/

namespace Condition

open ConditionText

/-- The text that compares a field with a text in quotes. -/
def equality (field s : String) : String := field ++ " == '" ++ s ++ "'"

/-- The characters of a comparison with a text in quotes. -/
theorem toList_equality (field s : String) :
    (equality field s).toList =
      field.toList ++ ' ' :: '=' :: '=' :: ' ' :: '\'' :: (s.toList ++ ['\'']) := by
  simp [equality]

/-- A comparison has no blanks at its ends. -/
theorem trim_equality {field : String} (hne : field.toList ≠ [])
    (hletters : ∀ c ∈ field.toList, c.isAlpha = true) (s : String) :
    Text.trim (equality field s).toList = (equality field s).toList := by
  obtain ⟨c, more, hfield⟩ := List.exists_cons_of_ne_nil hne
  have hc : Text.isBlank c = false := isBlank_of_isAlpha (hletters c (by simp [hfield]))
  have htrim := Text.trim_cons_concat hc (by decide : Text.isBlank '\'' = false)
    (more ++ ' ' :: '=' :: '=' :: ' ' :: '\'' :: s.toList)
  rw [toList_equality, hfield]
  simpa using htrim

/-- A comparison joins nothing if the quoted text does not. -/
theorem joinsNothing_equality {field s : String}
    (hletters : ∀ c ∈ field.toList, c.isAlpha = true) (hs : JoinsNothing s.toList) :
    JoinsNothing (equality field s).toList := by
  have hno : ∀ c, c.isAlpha = false → c ∉ field.toList := fun c hc hmem => by
    rw [hletters c hmem] at hc
    exact Bool.noConfusion hc
  have hcount : field.toList.countP Text.isBlank = 0 :=
    List.countP_eq_zero.mpr fun c hc => by simp [isBlank_of_isAlpha (hletters c hc)]
  have hfield : JoinsNothing (field.toList ++ [' ']) := by
    refine joinsNothing_of_countP ?_ ?_ ?_
    · rw [List.countP_append, hcount]
      decide
    · simpa using hno '&' (by decide)
    · simpa using hno '|' (by decide)
  have hnil : JoinsNothing [] := joinsNothing_of_countP (by decide) (by decide) (by decide)
  have hspace : JoinsNothing [' '] := joinsNothing_of_countP (by decide) (by decide) (by decide)
  have hquoted : JoinsNothing ([' '] ++ '\'' :: (s.toList ++ '\'' :: [])) :=
    .append_cons (by decide) (by decide) (by decide) hspace
      (.append_cons (by decide) (by decide) (by decide) hs hnil)
  have hall : JoinsNothing ((field.toList ++ [' ']) ++ '=' :: ([] ++ '=' ::
      ([' '] ++ '\'' :: (s.toList ++ '\'' :: [])))) :=
    .append_cons (by decide) (by decide) (by decide) hfield
      (.append_cons (by decide) (by decide) (by decide) hnil hquoted)
  rw [toList_equality]
  simpa using hall

/-- A text is loosely equal to a quoted one exactly if it is the same. -/
theorem looseEquals_string (s t : String) :
    Value.looseEquals (some (.string t)) (.string s) = true ↔ t = s := by
  simp [Value.looseEquals, Value.kind, Value.looseEq]

end Condition

section Equality

variable {field s : String} (hne : field ≠ "") (hletters : ∀ c ∈ field.toList, c.isAlpha = true)
  (hline : '\n' ∉ s.toList)

open Condition

include hne hletters hline

/-- **A quoted text is read whole exactly if it joins nothing**: the condition then is the
comparison of the field with that text. -/
theorem parse_equality_iff :
    (∃ c, Condition.parse (normalizeWords (equality field s)) = .ok c ∧
      c.clause = .compare [.key field] .eq (.string s)) ↔
      ConditionText.JoinsNothing s.toList := by
  constructor
  · rintro ⟨c, hparse, hclause⟩
    obtain ⟨clause, hread, rfl⟩ := map_eq_ok_iff.mp hparse
    dsimp only at hclause
    rw [hclause] at hread
    have hjoins := ConditionText.joinsNothing_iff_normalizeWords.mpr
      (ConditionText.not_infix_of_readClause hread)
    exact hjoins.mono ⟨field.toList ++ " == '".toList, ['\''], by simp [toList_equality]⟩
  · intro hjoins
    have hnames : field.toList ≠ [] := by simpa using hne
    have hnothing := joinsNothing_equality hletters hjoins
    have hpiece := ConditionText.readPiece_equality hnames hletters hline (equality field s)
    rw [String.ofList_toList, String.ofList_toList] at hpiece
    rw [ConditionText.normalizeWords_of_joinsNothing hnothing, Condition.parse,
      ConditionText.readClause_of_free hnothing.noAll, ConditionText.readAny_of_free hnothing.noAny,
      trim_equality hnames hletters, toList_equality, hpiece]
    exact ⟨_, rfl, rfl⟩

/-- **A quoted text stands for itself**, unless it joins clauses: the comparison is a condition,
which an item whose field is a text satisfies exactly if it is that text. -/
theorem parse_equality (hjoins : ConditionText.JoinsNothing s.toList) :
    ∃ c, Condition.parse (normalizeWords (equality field s)) = .ok c ∧
      ∀ ms t, Members.get? ms field = some (.string t) →
        (c.isMet (.object ms) = true ↔ t = s) := by
  obtain ⟨c, hparse, hclause⟩ := (parse_equality_iff hne hletters hline).mpr hjoins
  refine ⟨c, hparse, fun ms t ht => ?_⟩
  rw [Condition.isMet, hclause, Clause.holds, CompareOp.holds]
  simp [locate, step, ht, looseEquals_string]

end Equality

/-- A text with words, signs of operators and a whole match in it, none of which joins clauses. -/
def harmlessText : String := "AND =~ /or/ & | == android OR"

open Condition in
/-- A text that looks like conditions stands for itself. -/
theorem parse_equality_harmlessText :
    "note" ≠ "" ∧ (∀ c ∈ "note".toList, c.isAlpha = true) ∧ '\n' ∉ harmlessText.toList ∧
      ConditionText.JoinsNothing harmlessText.toList ∧
      ∃ c, Condition.parse (normalizeWords (equality "note" harmlessText)) = .ok c ∧
        ∀ ms t, Members.get? ms "note" = some (.string t) →
          (c.isMet (.object ms) = true ↔ t = harmlessText) := by
  have hletters : ∀ c ∈ "note".toList, c.isAlpha = true := List.all_eq_true.mp (by decide)
  have hline : '\n' ∉ harmlessText.toList := by decide
  have hjoins : ConditionText.JoinsNothing harmlessText.toList := by decide +kernel
  exact ⟨by decide, hletters, hline, hjoins, parse_equality (by decide) hletters hline hjoins⟩

open Condition in
/-- A word in a quoted text is taken for an operator, and the item with that text is missed. -/
theorem not_forall_parse_equality :
    ¬∀ field s : String, field ≠ "" → (∀ c ∈ field.toList, c.isAlpha = true) →
      '\'' ∉ s.toList → '"' ∉ s.toList → '\n' ∉ s.toList → '\r' ∉ s.toList →
      ∃ c, Condition.parse (normalizeWords (equality field s)) = .ok c ∧
        ∀ ms t, Members.get? ms field = some (.string t) →
          (c.isMet (.object ms) = true ↔ t = s) := by
  intro h
  have hmissed : ¬Meets (normalizeWords (equality "name" "Black and White"))
      (.object [("name", .string "Black and White")]) := by decide +kernel
  have hletters : ∀ c ∈ "name".toList, c.isAlpha = true := List.all_eq_true.mp (by decide)
  obtain ⟨c, hparse, hc⟩ := h "name" "Black and White" (by decide) hletters (by decide)
    (by decide) (by decide) (by decide)
  exact hmissed ⟨c, hparse, (hc _ _ rfl).mpr rfl⟩

end JsonWorkbench
