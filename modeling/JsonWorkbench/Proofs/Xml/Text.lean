import JsonWorkbench.Proofs.Text
import JsonWorkbench.Xml.Text

/-!
# Names and Escaped Texts

What stands between two brackets of a document is either a name with marks that do not occur in
names, or a text in which the brackets and the ampersand are written as entities. Undoing the
entities gives every text back, whatever it is: an ampersand of the text itself is an entity too.

## Main definitions

* `IsName`, `IsTagName` — the texts that are written as names, and those that are read as names.

## Main results

* `unescape_escapeText` — the entities of a text are undone.
* `isName_nameOf`, `nameOf_nameOf` — every text becomes a name, which stays as it is.
-/

namespace JsonWorkbench.Xml

/-! ### Entities -/

/-- A text with characters in front that are still to be skipped. -/
theorem unescapeFrom_length_append (skipped rest : List Char) :
    unescapeFrom skipped.length (skipped ++ rest) = unescapeFrom 0 rest := by
  induction skipped with
  | nil => rfl
  | cons c skipped ih => rw [List.length_cons, List.cons_append, unescapeFrom, ih]

/-- A character that is no ampersand stands for itself. -/
theorem unescapeFrom_cons {c : Char} (hc : c ≠ '&') (cs : List Char) :
    unescapeFrom 0 (c :: cs) = c :: unescapeFrom 0 cs := by
  rw [unescapeFrom, if_neg (by simpa using hc)]

/-- Text without ampersands stands for itself. -/
theorem unescapeFrom_append_of_not_mem {cs : List Char} (h : '&' ∉ cs) (rest : List Char) :
    unescapeFrom 0 (cs ++ rest) = cs ++ unescapeFrom 0 rest := by
  induction cs with
  | nil => rfl
  | cons c cs ih =>
      rw [List.mem_cons, not_or] at h
      rw [List.cons_append, unescapeFrom_cons (Ne.symm h.1), ih h.2, List.cons_append]

/-- The name of an entity goes up to the semicolon. -/
theorem takeWhile_entity {name : List Char} (hname : ';' ∉ name) (cs : List Char) :
    (name ++ ';' :: cs).takeWhile (· ≠ ';') = name := by
  have hall : ∀ c ∈ name, decide (c ≠ ';') = true := by
    intro c hc
    exact decide_eq_true (ne_of_mem_of_not_mem hc hname)
  rw [List.takeWhile_append_of_pos hall]
  simp

/-- The ampersand of an entity that is not known stands for itself. -/
theorem unescapeFrom_unknown {name : List Char} (hname : ';' ∉ name) (hx : entity? name = none)
    (cs : List Char) :
    unescapeFrom 0 ('&' :: (name ++ ';' :: cs)) = '&' :: unescapeFrom 0 (name ++ ';' :: cs) := by
  have htake := takeWhile_entity hname cs
  have hlen : name.length < (name ++ ';' :: cs).length := by simp
  rw [unescapeFrom, if_pos (beq_self_eq_true _)]
  simp only [htake, hlen, if_true, hx]

/-- A known entity stands for its character. -/
theorem unescapeFrom_entity {name : List Char} {x : Char} (hname : ';' ∉ name)
    (hx : entity? name = some x) (cs : List Char) :
    unescapeFrom 0 ('&' :: (name ++ ';' :: cs)) = x :: unescapeFrom 0 cs := by
  have htake := takeWhile_entity hname cs
  have hlen : name.length < (name ++ ';' :: cs).length := by simp
  have hskip : unescapeFrom (name.length + 1) (name ++ ';' :: cs) = unescapeFrom 0 cs := by
    have h := unescapeFrom_length_append (name ++ [';']) cs
    rwa [List.length_append, List.length_singleton, List.append_assoc, List.singleton_append] at h
  rw [unescapeFrom, if_pos (beq_self_eq_true _)]
  simp only [htake, hlen, if_true, hx, hskip]

/-- A character is written as a known entity, or as itself if it means nothing. -/
theorem escapeChar_cases (c : Char) :
    (∃ name, escapeChar c = '&' :: (name ++ [';']) ∧ entity? name = some c ∧
      ∀ d ∈ name, d.isAlpha = true) ∨
    (escapeChar c = [c] ∧ c ≠ '&' ∧ c ≠ '<') := by
  by_cases hamp : c = '&'
  · exact .inl ⟨"amp".toList, by simp [escapeChar, hamp], by rw [hamp]; rfl, by simp⟩
  · by_cases hlt : c = '<'
    · exact .inl ⟨"lt".toList, by simp [escapeChar, hlt], by rw [hlt]; rfl, by simp⟩
    · by_cases hgt : c = '>'
      · exact .inl ⟨"gt".toList, by simp [escapeChar, hgt], by rw [hgt]; rfl, by simp⟩
      · by_cases hquot : c = '"'
        · exact .inl ⟨"quot".toList, by simp [escapeChar, hquot], by rw [hquot]; rfl, by simp⟩
        · exact .inr ⟨by simp [escapeChar, hamp, hlt, hgt, hquot], hamp, hlt⟩

/-- The escape of a character is undone. -/
theorem unescapeFrom_escapeChar (c : Char) (cs : List Char) :
    unescapeFrom 0 (escapeChar c ++ cs) = c :: unescapeFrom 0 cs := by
  rcases escapeChar_cases c with ⟨name, hescape, hentity, hname⟩ | ⟨hescape, hamp, -⟩
  · have hfree : ';' ∉ name := fun hmem => absurd (hname _ hmem) (by decide)
    rw [hescape, List.cons_append, List.append_assoc, List.singleton_append]
    exact unescapeFrom_entity hfree hentity cs
  · rw [hescape, List.singleton_append]
    exact unescapeFrom_cons hamp cs

/-- **The entities of a text are undone.** -/
theorem unescape_escapeText (cs : List Char) : unescape (escapeText cs) = cs := by
  induction cs with
  | nil => rfl
  | cons c cs ih =>
      rw [escapeText, List.flatMap_cons, unescape, unescapeFrom_escapeChar]
      exact congrArg (c :: ·) ih

/-- A text without ampersands stands for itself. -/
theorem unescape_of_not_mem {cs : List Char} (h : '&' ∉ cs) : unescape cs = cs := by
  simpa [unescape, unescapeFrom] using unescapeFrom_append_of_not_mem h []

/-- An escaped text has no opening bracket. -/
theorem bracket_not_mem_escapeText (cs : List Char) : '<' ∉ escapeText cs := by
  rw [escapeText, List.mem_flatMap]
  rintro ⟨c, -, hc⟩
  rcases escapeChar_cases c with ⟨name, hescape, -, hname⟩ | ⟨hescape, -, hlt⟩
  · rw [hescape, List.mem_cons, List.mem_append, List.mem_singleton] at hc
    rcases hc with hc | hc | hc
    · exact absurd hc (by decide)
    · exact absurd (hname _ hc) (by decide)
    · exact absurd hc (by decide)
  · rw [hescape, List.mem_singleton] at hc
    exact hlt hc.symm

/-! ### Names -/

/-- A text that can be written as a name: there is something of it, and only characters of names. -/
def IsName (cs : List Char) : Prop := cs ≠ [] ∧ ∀ c ∈ cs, isPlainNameChar c = true

/-- The characters of names that are written are characters of names that are read. -/
theorem isNameChar_of_isPlainNameChar {c : Char} (hc : isPlainNameChar c = true) :
    isNameChar c = true := by
  rw [isNameChar, hc, Bool.true_or]

/-- A text of characters of names that are read. -/
def IsTagName (cs : List Char) : Prop := cs ≠ [] ∧ ∀ c ∈ cs, isNameChar c = true

/-- A name that is written can be read. -/
theorem IsName.isTagName {cs : List Char} (h : IsName cs) : IsTagName cs :=
  ⟨h.1, fun c hc => isNameChar_of_isPlainNameChar (h.2 c hc)⟩

/-- **Every text becomes a name.** -/
theorem isName_nameOf (cs : List Char) : IsName (nameOf cs) := by
  have hunderscore : isPlainNameChar '_' = true := by decide
  have hmap : ∀ c ∈ cs.map fun c => if isPlainNameChar c then c else '_',
      isPlainNameChar c = true := by
    intro c hc
    obtain ⟨d, -, rfl⟩ := List.mem_map.mp hc
    by_cases h : isPlainNameChar d = true <;> simp [h, hunderscore]
  unfold IsName nameOf
  generalize (cs.map fun c => if isPlainNameChar c then c else '_') = name at hmap
  cases name with
  | nil => simp [hunderscore]
  | cons c name =>
      by_cases h : (Text.isLetter c || c == '_') = true
      · simp only [h, if_true]
        exact ⟨by simp, hmap⟩
      · simp only [h, Bool.false_eq_true, if_false]
        exact ⟨by simp, List.forall_mem_cons.mpr ⟨hunderscore, hmap⟩⟩

/-- A name begins with a letter or an underscore. -/
theorem first_of_nameOf {cs name : List Char} {c : Char} (h : nameOf cs = c :: name) :
    (Text.isLetter c || c == '_') = true := by
  unfold nameOf at h
  generalize (cs.map fun c => if isPlainNameChar c then c else '_') = chars at h
  cases chars with
  | nil =>
      obtain ⟨rfl, -⟩ := List.cons.inj h
      simp
  | cons d chars =>
      by_cases hd : (Text.isLetter d || d == '_') = true
      · simp only [hd, if_true] at h
        exact (List.cons.inj h).1 ▸ hd
      · simp only [hd] at h
        obtain ⟨rfl, -⟩ := List.cons.inj h
        simp

/-- **A name stays as it is.** -/
theorem nameOf_nameOf (cs : List Char) : nameOf (nameOf cs) = nameOf cs := by
  obtain ⟨hne, hplain⟩ := isName_nameOf cs
  obtain ⟨c, name, hname⟩ := List.exists_cons_of_ne_nil hne
  have hfirst := first_of_nameOf hname
  rw [hname] at hplain ⊢
  have hmap : (c :: name).map (fun c => if isPlainNameChar c then c else '_') = c :: name :=
    (List.map_congr_left fun d hd => if_pos (hplain d hd)).trans (List.map_id _)
  unfold nameOf
  simp only [hmap, hfirst, if_true]

end JsonWorkbench.Xml
