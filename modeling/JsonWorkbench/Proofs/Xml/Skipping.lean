import JsonWorkbench.Proofs.Xml.Markup

/-!
# What Is Skipped in Element Documents

The end of a comment or of an instruction is searched for from its opening on, and the end of a tag
by passing over quoted values. Both find the right end, with one exception: the two hyphens of the
opening of a comment are taken for those of its end if a closing bracket is next, so that `<!-->`
and `<!--->` are read as whole comments, and what follows as text.

## Main definitions

* `CutsShort` — the bodies of comments of which the search finds an end too early.
* `Passes` — the texts in a tag that are passed over in search of its end.

## Main results

* `delimits_comment_iff` — the search finds the end of a comment unless it is cut short.
* `cutBehind_comment`, `cutBehind_opening` — what is cut off of a comment.
* `Tag.WellFormed.skipAttributes_open`, `Tag.WellFormed.skipAttributes_closed` — the attributes of a
  tag are skipped, whatever is in their values.
-/

namespace JsonWorkbench.Xml

/-! ### The ends of comments -/

/-- A comment whose body begins so is taken to end there. -/
def CutsShort (body : List Char) : Prop := ['>'] <+: body ∨ ['-', '>'] <+: body

instance (body : List Char) : Decidable (CutsShort body) := by
  unfold CutsShort
  infer_instance

/-- **The search finds the end of a comment unless the comment is cut short.** -/
theorem delimits_comment_iff {body : List Char} (h : ¬ ['-', '-'] <:+: body) :
    Text.Delimits ['-', '-', '>'] ('<' :: '!' :: '-' :: '-' :: body) ↔ ¬ CutsShort body := by
  have hnone : ¬ ['-', '-', '>'] <:+: body := fun hmem =>
    h ((List.prefix_append ['-', '-'] ['>']).isInfix.trans hmem)
  change Text.Delimits (['-', '-'] ++ ['>']) _ ↔ _
  rw [Text.delimits_concat_iff, Text.infix_append_iff (by decide), CutsShort]
  simp [List.infix_cons_iff, hnone]

/-- The search finds the end of an instruction. -/
theorem IsInstruction.delimits {body : List Char} (h : IsInstruction body) :
    Text.Delimits ['?', '>'] ('<' :: '?' :: body) := by
  obtain ⟨hnone, hhead⟩ := h
  change Text.Delimits (['?'] ++ ['>']) _
  rw [Text.delimits_concat_iff, Text.infix_append_iff (by decide)]
  cases body with
  | nil => decide
  | cons c body =>
      have hc : ¬ '>' = c := fun heq => hhead (by rw [heq]; rfl)
      simpa [List.infix_cons_iff, hc] using hnone

/-- The search finds the end of literal text. -/
theorem delimits_data {text : List Char} (h : ¬ [']', ']', '>'] <:+: text) :
    Text.Delimits [']', ']', '>'] text := by
  change Text.Delimits ([']', ']'] ++ ['>']) text
  rwa [Text.delimits_concat_iff, Text.infix_append_iff (by decide)]

/-- The search finds the end of a type definition. -/
theorem delimits_definition {body : List Char} (h : '>' ∉ body) :
    Text.Delimits ['>'] ('<' :: '!' :: body) := by
  refine Text.delimits_of_disjoint (by simp) fun c hc hmem => ?_
  obtain rfl : c = '>' := by simpa using hmem
  simp [h] at hc

/-- A text is cut behind the terminator that ends its start. -/
theorem cutBehind_append {terminator : String} {pattern cs : List Char}
    (hpattern : terminator.toList = pattern) (hne : pattern ≠ []) (h : Text.Delimits pattern cs)
    (behind : List Char) : cutBehind terminator (cs ++ (pattern ++ behind)) = .ok (cs, behind) := by
  rw [cutBehind, hpattern, (Text.cutAt_eq_some_iff hne).mpr ⟨rfl, h⟩]

/-- A comment that is not cut short is cut off. -/
theorem cutBehind_comment {body : List Char} (hbody : IsComment body) (hcut : ¬ CutsShort body)
    (rest : List Char) : cutBehind "-->" (commentText body ++ rest) =
      .ok ('<' :: '!' :: '-' :: '-' :: body, rest) := by
  simpa [commentText] using @cutBehind_append "-->" ['-', '-', '>'] _ rfl (by simp)
    ((delimits_comment_iff hbody.1).mpr hcut) rest

/-- Of a comment that is cut short only the opening is cut off. -/
theorem cutBehind_opening {opening : List Char} (hopening : opening = [] ∨ opening = ['-'])
    (more rest : List Char) :
    cutBehind "-->" (commentText (opening ++ '>' :: more) ++ rest) =
      .ok ('<' :: '!' :: opening, more ++ (['-', '-', '>'] ++ rest)) := by
  have hdelimits : Text.Delimits ['-', '-', '>'] ('<' :: '!' :: opening) := by
    rcases hopening with rfl | rfl <;> decide
  have hskip := @cutBehind_append "-->" ['-', '-', '>'] _ rfl (by simp) hdelimits
    (more ++ (['-', '-', '>'] ++ rest))
  rcases hopening with rfl | rfl <;> simpa [commentText] using hskip

/-- An instruction is cut off. -/
theorem cutBehind_instruction {body : List Char} (hbody : IsInstruction body) (rest : List Char) :
    cutBehind "?>" (instructionText body ++ rest) = .ok ('<' :: '?' :: body, rest) := by
  simpa [instructionText] using
    @cutBehind_append "?>" ['?', '>'] _ rfl (by simp) hbody.delimits rest

/-! ### Attributes -/

/-- A text that the search for the end of a tag passes over. -/
def Passes (cs : List Char) : Prop :=
  ∀ more, cutTag none (cs ++ more) = (cutTag none more).map fun (tag, rest) => (cs ++ tag, rest)

namespace Passes

/-- What passes over two texts passes over both. -/
theorem append {cs cs' : List Char} (h : Passes cs) (h' : Passes cs') : Passes (cs ++ cs') := by
  intro more
  rw [List.append_assoc, h, h', Option.map_map]
  simp only [Function.comp_def, List.append_assoc]

/-- Characters that are no brackets or quotation marks are passed over. -/
theorem of_forall {cs : List Char} (h : ∀ c ∈ cs, c ≠ '>' ∧ c ≠ '"' ∧ c ≠ '\'') : Passes cs := by
  intro more
  induction cs with
  | nil => simp
  | cons c cs ih =>
      obtain ⟨⟨hbracket, hdouble, hsingle⟩, hcs⟩ := List.forall_mem_cons.mp h
      simp [cutTag, hbracket, hdouble, hsingle, ih hcs, Function.comp_def]

/-- The rest of a quoted value is passed over with the mark that ends it. -/
theorem cutTag_value {mark : Char} {value : List Char} (h : mark ∉ value) (more : List Char) :
    cutTag (some mark) (value ++ mark :: more) =
      (cutTag none more).map fun (tag, rest) => (value ++ mark :: tag, rest) := by
  induction value with
  | nil => simp [cutTag]
  | cons c value ih =>
      rw [List.mem_cons, not_or] at h
      simp [cutTag, Ne.symm h.1, ih h.2, Function.comp_def]

/-- A quoted value is passed over, whatever is in it. -/
theorem quoted {mark : Char} {value : List Char} (hmark : mark = '"' ∨ mark = '\'')
    (h : mark ∉ value) : Passes (mark :: (value ++ [mark])) := by
  intro more
  have hvalue := cutTag_value h more
  simp only [List.cons_append, List.append_assoc, List.nil_append]
  rcases hmark with rfl | rfl <;> simp [cutTag, hvalue, Function.comp_def]

/-- Blanks are passed over. -/
theorem gap {gap : List Char} (hgap : IsGap gap) : Passes gap :=
  of_forall fun c hc => by rcases hgap c hc with rfl | rfl | rfl | rfl <;> decide

end Passes

/-- Attributes are passed over. -/
theorem Attribute.WellFormed.passes {a : Attribute} (ha : a.WellFormed) : Passes a.text := by
  have hname : Passes (a.name ++ ['=']) := .of_forall fun c hc => by
    rcases List.mem_append.mp hc with hc | hc
    · refine ⟨?_, ?_, ?_⟩ <;>
        · rintro rfl
          exact absurd (ha.name _ hc) (by decide)
    · rw [List.mem_singleton.mp hc]
      decide
  have h := (Passes.gap ha.gap).append (hname.append (.quoted ha.mark ha.value))
  simpa only [Attribute.text, List.append_assoc, List.singleton_append] using h

section

variable {t : Tag}

/-- The attributes and blanks of a tag are passed over. -/
theorem Tag.WellFormed.passes (ht : t.WellFormed) :
    Passes (t.attributes.flatMap Attribute.text ++ t.gap) := by
  obtain ⟨-, hattributes, hgap⟩ := ht
  refine Passes.append ?_ (.gap hgap)
  generalize t.attributes = attributes at hattributes
  induction attributes with
  | nil => exact .of_forall (by simp)
  | cons a attributes ih =>
      rw [List.forall_mem_cons] at hattributes
      exact hattributes.1.passes.append (ih hattributes.2)

/-- Attributes and blanks end the name of a tag. -/
theorem Tag.WellFormed.stops (ht : t.WellFormed) {rest : List Char}
    (hrest : Text.Stops isNameChar rest) :
    Text.Stops isNameChar (t.attributes.flatMap Attribute.text ++ (t.gap ++ rest)) := by
  obtain ⟨-, hattributes, hgap⟩ := ht
  cases hcases : t.attributes with
  | nil => exact hgap.stops hrest
  | cons a attributes =>
      have ha := hattributes a (by simp [hcases])
      obtain ⟨c, cs, hcons⟩ := List.exists_cons_of_ne_nil ha.gap_ne_nil
      have hone : IsGap [c] := fun d hd => ha.gap d (by simp_all)
      simp only [List.flatMap_cons, Attribute.text, hcons, List.cons_append]
      exact Text.stops_cons.mpr (Text.stops_cons.mp (hone.stops (Text.stops_nil _)))

/-- Attributes do not end in a slash. -/
theorem Tag.WellFormed.getLast?_trimEnd (ht : t.WellFormed) :
    (Text.trimEnd (t.attributes.flatMap Attribute.text ++ t.gap)).getLast? ≠ some '/' := by
  obtain ⟨-, hattributes, hgap⟩ := ht
  rw [Text.trimEnd, Text.dropEndWhile_append_of_forall hgap.isBlank]
  rcases List.eq_nil_or_concat t.attributes with hnil | ⟨attributes, a, hconcat⟩
  · simp [hnil, Text.dropEndWhile]
  · have hmark := (hattributes a (by simp [hconcat])).mark
    have hblank : Text.isBlank a.mark = false := by rcases hmark with h | h <;> rw [h] <;> decide
    have hlast : t.attributes.flatMap Attribute.text =
        (attributes.flatMap Attribute.text ++ (a.gap ++ (a.name ++ '=' :: a.mark :: a.value))) ++
          [a.mark] := by
      simp [hconcat, Attribute.text]
    rw [hlast, Text.dropEndWhile_concat hblank, List.getLast?_concat]
    rcases hmark with h | h <;> rw [h] <;> decide

/-- The tag of an element with content is skipped. -/
theorem Tag.WellFormed.skipAttributes_open (ht : t.WellFormed) (rest : List Char) :
    skipAttributes (t.attributes.flatMap Attribute.text ++ (t.gap ++ '>' :: rest)) =
      .ok (false, rest) := by
  rw [skipAttributes, ← List.append_assoc, ht.passes]
  simp [cutTag, ht.getLast?_trimEnd]

/-- The tag of an element without content is skipped. -/
theorem Tag.WellFormed.skipAttributes_closed (ht : t.WellFormed) (rest : List Char) :
    skipAttributes (t.attributes.flatMap Attribute.text ++ (t.gap ++ '/' :: '>' :: rest)) =
      .ok (true, rest) := by
  have hlast : ∀ cs : List Char, (Text.trimEnd (cs ++ ['/'])).getLast? = some '/' := fun cs => by
    rw [Text.trimEnd, Text.dropEndWhile_concat (by decide), List.getLast?_concat]
  rw [skipAttributes, ← List.append_assoc, ht.passes]
  simp [cutTag, hlast, -List.append_assoc]

end

end JsonWorkbench.Xml
