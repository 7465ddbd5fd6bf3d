import JsonWorkbench.Proofs.Xml.Text
import JsonWorkbench.Xml.Printer
import JsonWorkbench.Xml.Reader

/-!
# Reading Elements

Elements are read one after another from a text that they are at the start of. What is known of the
text of an element is therefore said for every text that may stand behind it; the reading needs no
more fuel than the element has characters. Elements on lines of their own have blanks in front,
which are skipped between roots and are text that is dropped between the tags of an object.

An element is opened by a bracket with a character of names behind it. This is what tells it from a
closing tag, a comment and a declaration, and it is why every text that is written as a name is
made to begin with such a character.

## Main definitions

* `ReadsElement`, `ReadsElements` — the text of an element, and of elements behind blanks.

## Main results

* `ReadsElement.closed`, `ReadsElement.leaf`, `ReadsElement.parent` — the three forms of elements.
* `readDocument_of_readsElements` — a document is read as the values of its elements.
-/

namespace JsonWorkbench.Xml

/-! ### The pieces of elements -/

/-- A character of names opens nothing but an element. -/
theorem ne_of_isNameChar {c : Char} (hc : isNameChar c = true) : c ≠ '/' ∧ c ≠ '!' ∧ c ≠ '?' := by
  refine ⟨?_, ?_, ?_⟩ <;>
    · rintro rfl
      exact absurd hc (by decide)

/-- A name is read up to a character that is none of a name. -/
theorem readName_append {name rest : List Char} (hname : IsTagName name)
    (hrest : Text.Stops isNameChar rest) : readName (name ++ rest) = .ok (name, rest) := by
  have hne : name.isEmpty = false := List.isEmpty_eq_false_iff.mpr hname.1
  rw [readName, Text.span_append hname.2 hrest]
  simp only [hne, Bool.false_eq_true, if_false]

/-- The blanks that can stand between the pieces of a tag. -/
def IsGap (cs : List Char) : Prop := ∀ c ∈ cs, c = ' ' ∨ c = '\t' ∨ c = '\n' ∨ c = '\r'

namespace IsGap

variable {gap : List Char}

/-- What stands between the pieces of a tag is blank. -/
theorem isBlank (hgap : IsGap gap) : ∀ c ∈ gap, Text.isBlank c = true := by
  intro c hc
  rcases hgap c hc with rfl | rfl | rfl | rfl <;> decide

/-- Blanks end a name. -/
theorem stops (hgap : IsGap gap) {rest : List Char} (hrest : Text.Stops isNameChar rest) :
    Text.Stops isNameChar (gap ++ rest) := by
  cases gap with
  | nil => exact hrest
  | cons c gap =>
      rw [List.cons_append, Text.stops_cons]
      rcases hgap c (List.mem_cons_self ..) with rfl | rfl | rfl | rfl <;> decide

end IsGap

/-- A closing tag is read. -/
theorem readClosing_append {name gap : List Char} (hname : IsTagName name) (hgap : IsGap gap)
    (rest : List Char) : readClosing name (name ++ (gap ++ '>' :: rest)) = .ok rest := by
  have hread : readName (name ++ (gap ++ '>' :: rest)) = .ok (name, gap ++ '>' :: rest) :=
    readName_append hname (hgap.stops (Text.stops_cons.mpr (by decide)))
  have hblank : Text.trimStart (gap ++ '>' :: rest) = '>' :: rest :=
    Text.trimStart_append hgap.isBlank (Text.stops_cons.mpr (by decide))
  rw [readClosing, hread]
  simp only [bind, Except.bind, ne_eq, not_true_eq_false, if_false, hblank, pure, Except.pure]

/-! ### The pieces of contents -/

section Content

variable {fuel : Nat} {name : List Char}

/-- Text is read up to the next bracket. -/
theorem readContent_text {text rest : List Char} (hne : text ≠ []) (htext : '<' ∉ text) :
    readContent (fuel + 1) name (text ++ '<' :: rest) =
      (readContent fuel name ('<' :: rest)).map fun (c, last) =>
        ({ c with text := unescape text ++ c.text }, last) := by
  obtain ⟨c, cs, rfl⟩ := List.exists_cons_of_ne_nil hne
  rw [List.mem_cons, not_or] at htext
  have hspan : (cs ++ '<' :: rest).span (fun d => !decide (d = '<')) = (cs, '<' :: rest) := by
    refine Text.span_append (fun d hd => ?_) (Text.stops_cons.mpr (by decide))
    rw [decide_eq_false (ne_of_mem_of_not_mem hd htext.2), Bool.not_false]
  rw [List.span_eq_takeWhile_dropWhile, Prod.mk.injEq] at hspan
  rw [readContent]
  simp [List.isPrefixOf, htext.1, Ne.symm htext.1, hspan.1, hspan.2]

/-- A closing tag, with blanks in it, ends the content. -/
theorem readContent_end {gap : List Char} (hname : IsTagName name) (hgap : IsGap gap)
    (rest : List Char) :
    readContent (fuel + 1) name ('<' :: '/' :: (name ++ (gap ++ '>' :: rest))) =
      .ok ({ elements := [], text := [] }, rest) := by
  rw [readContent]
  simp [List.isPrefixOf, readClosing_append hname hgap, Except.map]

/-- A closing tag ends the content. -/
theorem readContent_close (hname : IsName name) (rest : List Char) :
    readContent (fuel + 1) name (closeTag name ++ rest) =
      .ok ({ elements := [], text := [] }, rest) := by
  have hclose : closeTag name ++ rest = '<' :: '/' :: (name ++ ([] ++ '>' :: rest)) := by
    simp [closeTag]
  rw [hclose, readContent_end hname.isTagName (fun c hc => absurd hc List.not_mem_nil)]

/-- An element is put in front of what is behind it. -/
theorem readContent_element {c : Char} {cs rest : List Char} {element : String × Value}
    (hc : isNameChar c = true) (hread : readElement fuel (c :: cs) = .ok (element, rest)) :
    readContent (fuel + 1) name ('<' :: c :: cs) =
      (readContent fuel name rest).map fun (c, last) =>
        ({ c with elements := element :: c.elements }, last) := by
  obtain ⟨hslash, hmark, hquestion⟩ := ne_of_isNameChar hc
  rw [readContent]
  simp [List.isPrefixOf, Ne.symm hslash, Ne.symm hmark, Ne.symm hquestion, hread]

end Content

/-! ### Elements -/

/-- The text of an element behind its opening bracket, whatever stands behind the element. -/
structure ReadsElement (cs : List Char) (element : String × Value) : Prop where
  /-- The text begins with a name. -/
  first : ∃ c rest, cs = c :: rest ∧ isNameChar c = true
  /-- Reading takes exactly the text. -/
  reads : ∀ (fuel : Nat) (rest : List Char), cs.length ≤ fuel →
    readElement fuel (cs ++ rest) = .ok (element, rest)

/-- The text of elements one after another, each behind blanks. -/
inductive ReadsElements : List Char → List (String × Value) → Prop
  /-- There is no element. -/
  | nil : ReadsElements [] []
  /-- There is an element in front of the others. -/
  | cons {gap cs text : List Char} {element : String × Value} {elements : List (String × Value)}
      (hgap : ∀ c ∈ gap, Text.isBlank c = true) (hne : gap ≠ []) (hcs : ReadsElement cs element)
      (htext : ReadsElements text elements) :
      ReadsElements (gap ++ '<' :: (cs ++ text)) (element :: elements)

namespace ReadsElements

/-- Blanks have no bracket. -/
theorem not_mem_of_blank {gap : List Char} (hgap : ∀ c ∈ gap, Text.isBlank c = true) :
    '<' ∉ gap := by
  intro hmem
  exact absurd (hgap _ hmem) (by decide)

/-- Elements behind others. -/
theorem append {text text' : List Char} {elements elements' : List (String × Value)}
    (h : ReadsElements text elements) (h' : ReadsElements text' elements') :
    ReadsElements (text ++ text') (elements ++ elements') := by
  induction h with
  | nil => exact h'
  | cons hgap hne hcs _ ih =>
      simp only [List.append_assoc, List.cons_append]
      exact .cons hgap hne hcs ih

/-- Elements are read as the content of an element, up to its closing tag. -/
theorem readContent {text : List Char} {elements : List (String × Value)}
    (h : ReadsElements text elements) {name gap : List Char} (hname : IsName name)
    (hgap : ∀ c ∈ gap, Text.isBlank c = true) (hne : gap ≠ []) (rest : List Char) {fuel : Nat}
    (hfuel : (text ++ (gap ++ closeTag name)).length ≤ fuel) :
    ∃ c, Xml.readContent fuel name (text ++ (gap ++ (closeTag name ++ rest))) = .ok (c, rest) ∧
      c.elements = elements := by
  have hclose : closeTag name ++ rest = '<' :: ('/' :: name ++ ['>'] ++ rest) := rfl
  have hpos : 0 < gap.length := List.length_pos_iff.mpr hne
  induction h generalizing fuel with
  | nil =>
      obtain ⟨fuel, rfl⟩ : ∃ f, fuel = f + 2 := by
        simp only [closeTag, List.nil_append, List.length_append, List.length_cons] at hfuel
        exact ⟨fuel - 2, by omega⟩
      rw [List.nil_append, hclose, readContent_text hne (not_mem_of_blank hgap), ← hclose,
        readContent_close hname]
      exact ⟨_, rfl, rfl⟩
  | @cons gap' cs text element elements hgap' hne' hcs htext ih =>
      have hpos' : 0 < gap'.length := List.length_pos_iff.mpr hne'
      simp only [List.length_append, List.length_cons] at hfuel
      obtain ⟨fuel, rfl⟩ : ∃ f, fuel = f + 2 := ⟨fuel - 2, by omega⟩
      obtain ⟨content, hcontent, helements⟩ : ∃ c, Xml.readContent fuel name
          (text ++ (gap ++ (closeTag name ++ rest))) = .ok (c, rest) ∧ c.elements = elements := by
        refine ih ?_
        simp only [List.length_append]
        omega
      have hread := hcs.reads fuel (text ++ (gap ++ (closeTag name ++ rest))) (by omega)
      obtain ⟨c, cs', rfl, hc⟩ := hcs.first
      simp only [List.append_assoc, List.cons_append] at hread ⊢
      rw [readContent_text hne' (not_mem_of_blank hgap'), readContent_element hc hread, hcontent]
      exact ⟨_, rfl, by rw [helements]⟩

end ReadsElements

/-! ### The three forms of elements -/

namespace ReadsElement

variable {name : List Char}

/-- What begins with a name begins with a character of names. -/
theorem first_append (hname : IsTagName name) (rest : List Char) :
    ∃ c cs, name ++ rest = c :: cs ∧ isNameChar c = true := by
  obtain ⟨c, cs, rfl⟩ := List.exists_cons_of_ne_nil hname.1
  exact ⟨c, cs ++ rest, rfl, hname.2 c (List.mem_cons_self ..)⟩

/-- An element of one tag is null, whatever is skipped behind its name. -/
theorem of_tag (hname : IsTagName name) {tag : List Char}
    (hstops : ∀ rest, Text.Stops isNameChar (tag ++ rest))
    (hskip : ∀ rest, skipAttributes (tag ++ rest) = .ok (true, rest)) :
    ReadsElement (name ++ tag) (String.ofList name, .null) where
  first := first_append hname _
  reads fuel rest hfuel := by
    have hpos := List.length_pos_iff.mpr hname.1
    rw [List.length_append] at hfuel
    obtain ⟨fuel, rfl⟩ : ∃ f, fuel = f + 1 := ⟨fuel - 1, by omega⟩
    have hread : readName (name ++ (tag ++ rest)) = .ok (name, tag ++ rest) :=
      readName_append hname (hstops rest)
    rw [List.append_assoc, readElement]
    simp only [hread, hskip]

/-- An element with content has the value of its content, whatever is skipped behind its name. -/
theorem of_tags (hname : IsTagName name) {tag text : List Char} {v : Value}
    (hstops : ∀ rest, Text.Stops isNameChar (tag ++ rest))
    (hskip : ∀ rest, skipAttributes (tag ++ rest) = .ok (false, rest))
    (h : ∀ (fuel : Nat) (rest : List Char), text.length ≤ fuel →
      ∃ c, readContent fuel name (text ++ rest) = .ok (c, rest) ∧ c.value = v) :
    ReadsElement (name ++ (tag ++ text)) (String.ofList name, v) where
  first := first_append hname _
  reads fuel rest hfuel := by
    have hpos := List.length_pos_iff.mpr hname.1
    simp only [List.length_append] at hfuel
    obtain ⟨fuel, rfl⟩ : ∃ f, fuel = f + 1 := ⟨fuel - 1, by omega⟩
    obtain ⟨content, hcontent, hvalue⟩ := h fuel rest (by omega)
    have hread : readName (name ++ (tag ++ (text ++ rest))) = .ok (name, tag ++ (text ++ rest)) :=
      readName_append hname (hstops _)
    simp only [List.append_assoc]
    rw [readElement]
    simp only [hread, hskip, hcontent, Except.map, hvalue]

/-- A closed element is null. -/
theorem closed (hname : IsName name) :
    ReadsElement (name ++ [' ', '/', '>']) (String.ofList name, .null) :=
  of_tag hname.isTagName (fun _ => Text.stops_cons.mpr (by decide)) fun _ => rfl

/-- The tags of an element around its content. -/
theorem of_content (hname : IsName name) {text : List Char} {v : Value}
    (h : ∀ (fuel : Nat) (rest : List Char), (text ++ closeTag name).length ≤ fuel →
      ∃ c, readContent fuel name (text ++ (closeTag name ++ rest)) = .ok (c, rest) ∧ c.value = v) :
    ReadsElement (name ++ '>' :: (text ++ closeTag name)) (String.ofList name, v) := by
  have hread : ∀ (fuel : Nat) (rest : List Char), (text ++ closeTag name).length ≤ fuel →
      ∃ c, readContent fuel name (text ++ closeTag name ++ rest) = .ok (c, rest) ∧ c.value = v := by
    intro fuel rest hfuel
    rw [List.append_assoc]
    exact h fuel rest hfuel
  have hstops : ∀ rest, Text.Stops isNameChar (['>'] ++ rest) := fun _ =>
    Text.stops_cons.mpr (by decide)
  exact of_tags hname.isTagName hstops (fun _ => rfl) hread

/-- An element with text alone is what the text stands for, without the blanks around it. -/
theorem leaf (hname : IsName name) {text : List Char} (htext : '<' ∉ text) :
    ReadsElement (name ++ '>' :: (text ++ closeTag name))
      (String.ofList name, textValue (Text.trim (unescape text))) := by
  refine of_content hname fun fuel rest hfuel => ?_
  have hclose : closeTag name ++ rest = '<' :: ('/' :: name ++ ['>'] ++ rest) := rfl
  by_cases hne : text = []
  · obtain ⟨fuel, rfl⟩ : ∃ f, fuel = f + 1 := by
      simp only [closeTag, List.length_append, List.length_cons] at hfuel
      exact ⟨fuel - 1, by omega⟩
    rw [hne, List.nil_append, readContent_close hname]
    exact ⟨_, rfl, rfl⟩
  · obtain ⟨fuel, rfl⟩ : ∃ f, fuel = f + 2 := by
      simp only [closeTag, List.length_append, List.length_cons] at hfuel
      exact ⟨fuel - 2, by omega⟩
    rw [hclose, readContent_text hne htext, ← hclose, readContent_close hname]
    refine ⟨_, rfl, ?_⟩
    simp [Content.value]

/-- An element with elements inside is an object; the blanks around them are dropped. -/
theorem parent (hname : IsName name) {text gap : List Char} {elements : List (String × Value)}
    (h : ReadsElements text elements) (hne : elements ≠ [])
    (hgap : ∀ c ∈ gap, Text.isBlank c = true) (hgapne : gap ≠ []) :
    ReadsElement (name ++ '>' :: (text ++ gap ++ closeTag name))
      (String.ofList name, .object (collect elements)) := by
  refine of_content hname fun fuel rest hfuel => ?_
  rw [List.append_assoc] at hfuel ⊢
  obtain ⟨content, hcontent, helements⟩ := h.readContent hname hgap hgapne rest hfuel
  refine ⟨content, hcontent, ?_⟩
  have hempty : content.elements.isEmpty = false := by
    rw [helements]
    exact List.isEmpty_eq_false_iff.mpr hne
  rw [Content.value, hempty, helements]
  rfl

end ReadsElement

/-! ### Documents -/

/-- Blanks in front of the end or of an element are skipped. -/
theorem skipMiscFrom_gap {gap rest : List Char} (hgap : ∀ c ∈ gap, Text.isBlank c = true)
    (hrest : rest = [] ∨ ∃ c cs, rest = '<' :: c :: cs ∧ isNameChar c = true) (fuel : Nat) :
    skipMiscFrom (fuel + 1) (gap ++ rest) = .ok rest := by
  have hstops : Text.Stops Text.isBlank rest := by
    rcases hrest with rfl | ⟨c, cs, rfl, -⟩
    · exact Text.stops_nil _
    · exact Text.stops_cons.mpr (by decide)
  have hnone : miscTerminator? rest = none := by
    rcases hrest with rfl | ⟨c, cs, rfl, hc⟩
    · decide
    · obtain ⟨-, hmark, hquestion⟩ := ne_of_isNameChar hc
      simp [miscTerminator?, List.isPrefixOf, Ne.symm hmark, Ne.symm hquestion]
  rw [skipMiscFrom, Text.trimStart_append hgap hstops]
  simp only [hnone]

namespace ReadsElements

/-- Behind blanks there is an element, or the end. -/
theorem skipMiscFrom {text : List Char} {elements : List (String × Value)}
    (h : ReadsElements text elements) (fuel : Nat) :
    ∃ next, Xml.skipMiscFrom (fuel + 1) text = .ok next ∧ next.length ≤ text.length ∧
      ∀ fuel, next.length < fuel → readRoots fuel next = .ok (elements, []) := by
  induction h generalizing fuel with
  | nil =>
      refine ⟨[], rfl, Nat.le_refl _, fun fuel hfuel => ?_⟩
      obtain ⟨fuel, rfl⟩ : ∃ f, fuel = f + 1 := ⟨fuel - 1, by omega⟩
      rfl
  | @cons gap cs text element elements hgap hne hcs htext ih =>
      obtain ⟨c, cs', hcons, hc⟩ := hcs.first
      refine ⟨'<' :: (cs ++ text), skipMiscFrom_gap hgap (.inr ?_) fuel, by simp, ?_⟩
      · exact ⟨c, cs' ++ text, by rw [hcons]; rfl, hc⟩
      · intro fuel hfuel
        simp only [List.length_cons, List.length_append] at hfuel
        obtain ⟨fuel, rfl⟩ : ∃ f, fuel = f + 1 := ⟨fuel - 1, by omega⟩
        have hread := hcs.reads (2 * (cs ++ text).length + 2) text (by simp; omega)
        obtain ⟨next, hnext, hlen, hroots⟩ := ih text.length
        rw [readRoots, if_neg (by simp), hread]
        simp only [skipMisc, hnext, hroots fuel (by omega), Except.map]

end ReadsElements

/-- The value of a document with these elements as its roots. -/
def rootValue : List (String × Value) → Value
  | [(_, v)] => v
  | elements => .object (collect elements)

/-- **A document is read as the values of its elements.** -/
theorem readDocument_of_readsElements {text : List Char} {elements : List (String × Value)}
    (h : ReadsElements text elements) (hne : elements ≠ []) :
    readDocument (declaration ++ text) = .ok (rootValue elements) := by
  have hlong : 38 + text.length = (declaration ++ text).length := by
    rw [List.length_append]
    rfl
  obtain ⟨next, hnext, hlen, hroots⟩ := h.skipMiscFrom (37 + text.length)
  have htrim : Text.trimStart (declaration ++ text) = declaration ++ text := rfl
  have hterminator : miscTerminator? (declaration ++ text) = some "?>" := rfl
  have hcut : cutBehind "?>" (declaration ++ text) =
      .ok ("<?xml version=\"1.0\" encoding=\"UTF-8\"".toList, text) := rfl
  have hskip : skipMisc (declaration ++ text) = .ok next := by
    rw [skipMisc, ← hlong, skipMiscFrom, htrim]
    simp only [hterminator, hcut]
    rw [← hnext]
    congr 1
    omega
  have hread : readRoots ((declaration ++ text).length + 1) next = .ok (elements, []) :=
    hroots _ (by omega)
  rw [readDocument, hskip]
  simp only [bind, Except.bind, hread]
  match elements, hne with
  | [(_, v)], _ => rfl
  | _ :: _ :: _, _ => rfl

end JsonWorkbench.Xml
