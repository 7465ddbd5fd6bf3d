import JsonWorkbench.Condition.Parser
import JsonWorkbench.Proofs.Condition.Separator

/-!
# The Form of Matches

A match is a field, the sign `=~` between blanks, and a pattern between slashes with flags behind
it. The pattern reaches to the last slash of the text, whatever stands in it: there is at most one
way to take a text for a match, and the reader finds it.

## Main definitions

* `IsField`, `MatchForm` — the texts of fields and of matches.
* `IsMatch` — the texts that are matches, up to blanks at their ends.
* `OpensMatch` — the texts that begin like a match.

## Main results

* `spanField_eq_some_iff` — the field at the start of a text.
* `splitMatch_eq_some_iff` — the reader finds exactly the texts of the form.
* `OpensMatch.of_intercalate` — joined texts begin like a match only if the first one does.
-/

namespace JsonWorkbench.ConditionText

/-- The text of a field: an `@` or a character of fields other than a dot, and characters of
fields behind it. -/
def IsField (field : List Char) : Prop :=
  ∃ c more, field = c :: more ∧ (c = '@' ∨ isFieldChar c = true ∧ c ≠ '.') ∧
    ∀ d ∈ more, isFieldChar d = true

/-- A text of the form `field =~ /pattern/flags`, with blanks around the sign. -/
structure MatchForm (cs field pattern flags : List Char) : Prop where
  /-- The field is one. -/
  isField : IsField field
  /-- The parts stand one behind the other. -/
  parts : ∃ before behind, (∀ c ∈ before, Text.isBlank c = true) ∧
    (∀ c ∈ behind, Text.isBlank c = true) ∧
    cs = field ++ (before ++ '=' :: '~' :: (behind ++ '/' :: (pattern ++ '/' :: flags)))
  /-- The pattern stands on one line. -/
  oneLine : '\n' ∉ pattern
  /-- The flags are letters. -/
  letters : ∀ c ∈ flags, c.isAlpha = true

/-- A text is a match, up to blanks at its ends. -/
def IsMatch (text : String) : Prop :=
  ∃ field pattern flags, MatchForm (Text.trim text.toList) field pattern flags

/-! ### Fields -/

/-- The code points of the blanks. -/
def blankPoints : List Nat :=
  [0x09, 0x0A, 0x0B, 0x0C, 0x0D, 0x20, 0x85, 0xA0, 0x1680, 0x2000, 0x2001, 0x2002, 0x2003, 0x2004,
    0x2005, 0x2006, 0x2007, 0x2008, 0x2009, 0x200A, 0x2028, 0x2029, 0x202F, 0x205F, 0x3000]

/-- The code point of a blank is one of them. -/
theorem toNat_mem_blankPoints {c : Char} (h : Text.isBlank c = true) : c.toNat ∈ blankPoints := by
  simp only [Text.isBlank, Bool.or_eq_true, Bool.and_eq_true, decide_eq_true_eq, beq_iff_eq] at h
  simp only [blankPoints, List.mem_cons, List.not_mem_nil, or_false]
  omega

/-- A blank is no character of fields. -/
theorem isFieldChar_of_isBlank {c : Char} (h : Text.isBlank c = true) : isFieldChar c = false := by
  have hall : ∀ n ∈ blankPoints, isFieldChar (Char.ofNat n) = false := by
    decide +kernel
  rw [← Char.ofNat_toNat c]
  exact hall _ (toNat_mem_blankPoints h)

/-- A field reaches as far as there are characters of fields. -/
theorem spanField_eq_some_iff {cs field rest : List Char} :
    spanField cs = some (field, rest) ↔
      IsField field ∧ cs = field ++ rest ∧ Text.Stops isFieldChar rest := by
  constructor
  · intro h
    rcases cs with - | ⟨c, cs⟩
    · simp [spanField] at h
    · obtain ⟨more, behind, hspan⟩ : ∃ more behind, cs.span isFieldChar = (more, behind) :=
        ⟨_, _, rfl⟩
      rw [spanField, hspan] at h
      split at h
      · next hstart =>
          obtain ⟨rfl, hmore, hrest⟩ := Text.span_eq_iff.mp hspan
          obtain ⟨rfl, rfl⟩ := Prod.mk.inj (Option.some.inj h)
          exact ⟨⟨c, more, rfl, by simpa using hstart, hmore⟩, rfl, hrest⟩
      · simp at h
  · rintro ⟨⟨c, more, rfl, hstart, hmore⟩, rfl, hrest⟩
    have hspan : (more ++ rest).span isFieldChar = (more, rest) := Text.span_append hmore hrest
    have hstart' : (c == '@' || (isFieldChar c && c != '.')) = true := by simpa using hstart
    rw [List.cons_append, spanField, if_pos hstart', hspan]

/-! ### Matches -/

/-- The last slash of a text is where the text, read from its end, first has one. -/
theorem span_reverse_eq_iff {body letters line : List Char} {c : Char} :
    body.reverse.span (· != '/') = (letters, c :: line) ↔
      c = '/' ∧ body = line.reverse ++ '/' :: letters.reverse ∧ '/' ∉ letters := by
  have hfree : (∀ d ∈ letters, (d != '/') = true) ↔ '/' ∉ letters := by
    simp only [bne_iff_ne]
    exact ⟨fun h hmem => h '/' hmem rfl, fun h d hd heq => h (heq ▸ hd)⟩
  rw [Text.span_eq_iff, hfree, Text.stops_cons, bne_eq_false_iff_eq, List.reverse_eq_iff]
  constructor
  · rintro ⟨hbody, hletters, rfl⟩
    exact ⟨rfl, by simpa using hbody, hletters⟩
  · rintro ⟨rfl, hbody, hletters⟩
    exact ⟨by simpa using hbody, hletters, rfl⟩

/-- A text that is read as a match has the form of one. -/
theorem matchForm_of_splitMatch {cs field pattern flags : List Char}
    (h : splitMatch cs = some (field, pattern, flags)) : MatchForm cs field pattern flags := by
  unfold splitMatch at h
  split at h
  · simp at h
  · next field' rest hspan =>
      obtain ⟨hfield, rfl, -⟩ := spanField_eq_some_iff.mp hspan
      split at h
      · next more hsign =>
          obtain ⟨-, before, hbefore, rfl⟩ := Text.trimStart_eq_cons_iff.mp hsign
          split at h
          · next body hslash =>
              obtain ⟨-, behind, hbehind, rfl⟩ := Text.trimStart_eq_cons_iff.mp hslash
              obtain ⟨letters, front, hspan⟩ :
                  ∃ letters front, body.reverse.span (· != '/') = (letters, front) := ⟨_, _, rfl⟩
              rw [hspan] at h
              dsimp only at h
              split at h
              · simp at h
              · next slash line =>
                  obtain ⟨-, rfl, -⟩ := span_reverse_eq_iff.mp hspan
                  split at h
                  · next hboth =>
                      simp only [Option.some.injEq, Prod.mk.injEq] at h
                      obtain ⟨rfl, rfl, rfl⟩ := h
                      rw [Bool.and_eq_true, List.all_eq_true, Bool.not_eq_true',
                        List.contains_eq_mem, decide_eq_false_iff_not] at hboth
                      exact ⟨hfield, ⟨before, behind, hbefore, hbehind, rfl⟩,
                        by simpa using hboth.2, by simpa using hboth.1⟩
                  · simp at h
          · simp at h
      · simp at h

/-- A text of the form of a match is read as that match. -/
theorem splitMatch_of_matchForm {cs field pattern flags : List Char}
    (h : MatchForm cs field pattern flags) : splitMatch cs = some (field, pattern, flags) := by
  obtain ⟨hfield, ⟨before, behind, hbefore, hbehind, rfl⟩, hline, hletters⟩ := h
  -- Neither a blank nor the sign can belong to the field, and no flag is a slash.
  have hstop : Text.Stops isFieldChar
      (before ++ '=' :: '~' :: (behind ++ '/' :: (pattern ++ '/' :: flags))) := by
    cases before with
    | nil => exact Text.stops_cons.mpr (by decide)
    | cons b before => exact Text.stops_cons.mpr (isFieldChar_of_isBlank (hbefore b (by simp)))
  have hspan := spanField_eq_some_iff.mpr ⟨hfield, rfl, hstop⟩
  have hsign : Text.trimStart
      (before ++ '=' :: '~' :: (behind ++ '/' :: (pattern ++ '/' :: flags))) =
        '=' :: '~' :: (behind ++ '/' :: (pattern ++ '/' :: flags)) :=
    Text.trimStart_append hbefore (Text.stops_cons.mpr (by decide))
  have hslash : Text.trimStart (behind ++ '/' :: (pattern ++ '/' :: flags)) =
      '/' :: (pattern ++ '/' :: flags) :=
    Text.trimStart_append hbehind (Text.stops_cons.mpr (by decide))
  have hslashes : '/' ∉ flags.reverse := fun hmem =>
    absurd (hletters '/' (List.mem_reverse.mp hmem)) (by decide)
  have hend : (pattern ++ '/' :: flags).reverse.span (· != '/') =
      (flags.reverse, '/' :: pattern.reverse) :=
    span_reverse_eq_iff.mpr ⟨rfl, by simp, hslashes⟩
  have hall : (flags.reverse.all Char.isAlpha && !pattern.reverse.contains '\n') = true := by
    simpa [hline] using hletters
  simp only [splitMatch, hspan, hsign, hslash, hend, hall, if_true, List.reverse_reverse]

/-- The reader finds exactly the texts of the form of a match. -/
theorem splitMatch_eq_some_iff {cs field pattern flags : List Char} :
    splitMatch cs = some (field, pattern, flags) ↔ MatchForm cs field pattern flags :=
  ⟨matchForm_of_splitMatch, splitMatch_of_matchForm⟩

/-- A text is a match exactly if the reader finds one. -/
theorem isMatch_iff {text : String} :
    IsMatch text ↔ (splitMatch (Text.trim text.toList)).isSome = true := by
  simp only [IsMatch, ← splitMatch_eq_some_iff, Option.isSome_iff_exists, Prod.exists]

instance (text : String) : Decidable (IsMatch text) := decidable_of_iff _ isMatch_iff.symm

/-! ### Where matches begin -/

/-- The start of a match, blanks in front of it included, up to the slash before its pattern. -/
def IsOpening (cs : List Char) : Prop :=
  ∃ lead field before behind, (∀ c ∈ lead ++ (before ++ behind), Text.isBlank c = true) ∧
    IsField field ∧ cs = lead ++ (field ++ (before ++ '=' :: '~' :: (behind ++ ['/'])))

/-- A text begins like a match. -/
def OpensMatch (cs : List Char) : Prop := ∃ start, IsOpening start ∧ start <+: cs

/-- No sign that joins clauses stands in front of a pattern. -/
theorem IsOpening.not_mem {cs : List Char} (h : IsOpening cs) {c : Char} (hc : c = '&' ∨ c = '|') :
    c ∉ cs := by
  obtain ⟨lead, field, before, behind, hblank, ⟨d, more, rfl, hstart, hmore⟩, rfl⟩ := h
  have hother : Text.isBlank c = false ∧ isFieldChar c = false ∧ c ∉ ['@', '=', '~', '/'] := by
    rcases hc with rfl | rfl <;> decide
  obtain ⟨hgap, hfield, hsign⟩ := hother
  have hgaps : c ∉ lead ++ (before ++ behind) := fun hmem => by
    rw [hblank c hmem] at hgap
    exact Bool.noConfusion hgap
  have hname : c ∉ d :: more := by
    rw [List.mem_cons, not_or]
    constructor
    · rintro rfl
      rcases hstart with rfl | hd
      · exact hsign (by decide)
      · rw [hd.1] at hfield
        exact Bool.noConfusion hfield
    · intro hmem
      rw [hmore c hmem] at hfield
      exact Bool.noConfusion hfield
  simp only [List.mem_append, List.mem_cons, List.not_mem_nil, or_false,
    not_or] at hgaps hname hsign ⊢
  exact ⟨hgaps.1, hname, hgaps.2.1, hsign.2.1, hsign.2.2.1, hgaps.2.2, hsign.2.2.2⟩

/-- In front of a pattern stands a slash. -/
theorem IsOpening.getLast? {cs : List Char} (h : IsOpening cs) : cs.getLast? = some '/' := by
  obtain ⟨lead, field, before, behind, -, -, rfl⟩ := h
  simp [List.getLast?_append, List.getLast?_cons]

/-- A text that begins like a match does so in front of the first word that joins clauses. -/
theorem OpensMatch.of_append {u v : List Char} {c : Char} (hc : c = '&' ∨ c = '|')
    (h : OpensMatch (u ++ ' ' :: c :: v)) : OpensMatch u := by
  obtain ⟨start, hopening, hstart⟩ := h
  refine ⟨start, hopening, ?_⟩
  rcases List.prefix_or_prefix_of_prefix hstart (List.prefix_append u _) with hle | ⟨reach, rfl⟩
  · exact hle
  · rw [List.prefix_append_right_inj] at hstart
    cases reach with
    | nil => rw [List.append_nil]
    | cons d reach =>
        obtain ⟨rfl, hreach⟩ := List.cons_prefix_cons.mp hstart
        cases reach with
        | nil => simpa using hopening.getLast?
        | cons e reach =>
            obtain ⟨rfl, -⟩ := List.cons_prefix_cons.mp hreach
            exact absurd (by simp) (hopening.not_mem hc)

/-- Of joined texts that begin like a match the first one does. -/
theorem OpensMatch.of_intercalate {c : Char} (hc : c = '&' ∨ c = '|') {texts : List (List Char)}
    (hne : texts ≠ []) (h : OpensMatch ([' ', c, c, ' '].intercalate texts)) :
    ∃ cs ∈ texts, OpensMatch cs := by
  cases texts with
  | nil => exact absurd rfl hne
  | cons cs texts =>
      refine ⟨cs, List.mem_cons_self .., ?_⟩
      cases texts with
      | nil => rwa [List.intercalate_singleton] at h
      | cons next texts =>
          rw [List.intercalate_cons_cons, List.append_assoc] at h
          exact .of_append hc h

/-- A match begins like one. -/
theorem IsMatch.opensMatch {text : String} (h : IsMatch text) : OpensMatch text.toList := by
  obtain ⟨field, pattern, flags, hfield, ⟨before, behind, hbefore, hbehind, heq⟩, -, -⟩ := h
  obtain ⟨lead, trail, htext, hlead, -⟩ := Text.exists_trim text.toList
  refine ⟨_, ⟨lead, field, before, behind, ?_, hfield, rfl⟩, ?_⟩
  · simp only [List.mem_append]
    rintro c (hmem | hmem | hmem)
    · exact hlead c hmem
    · exact hbefore c hmem
    · exact hbehind c hmem
  · rw [htext, heq]
    exact ⟨pattern ++ '/' :: flags ++ trail, by simp⟩

end JsonWorkbench.ConditionText
