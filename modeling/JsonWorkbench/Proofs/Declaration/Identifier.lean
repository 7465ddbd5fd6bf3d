import JsonWorkbench.Declaration.Identifier
import JsonWorkbench.Proofs.Text

/-!
# The Characters of Identifiers

Names are made of letters, digits and characters above U+007F, those of fields also of underscores.
Changing the case keeps to these characters, which the tables of case mapping are looked through
for: a run of characters above U+007F is mapped above U+007F, or is a single character that is
mapped to a letter. So whatever a key consists of, no blank, quote, bracket or backslash comes
into a name.

## Main definitions

* `IsNameChar` — the characters that words are made of.
* `CaseRun.KeepsNames` — a run of a case mapping leads to such characters only.

## Main results

* `isNameChar_of_mem_pascalCase` — the characters of the name of a type.
* `isNameChar_of_mem_snakeCase` — the characters of the name of a field.
-/

namespace JsonWorkbench

/-! ### Letters, digits and case -/

/-- The character is a letter, a digit or above U+007F. -/
def IsNameChar (c : Char) : Prop := c.isAlphanum = true ∨ 0x80 ≤ c.toNat

instance (c : Char) : Decidable (IsNameChar c) := inferInstanceAs (Decidable (_ ∨ _))

namespace Text

/-- A letter and a character that stands for a number are characters of names. -/
theorem isNameChar_of_isAlphanumeric {c : Char} (h : isAlphanumeric c = true) : IsNameChar c := by
  by_cases hc : c.toNat < 0x80
  · refine .inl ?_
    simpa [isAlphanumeric, isLetter, isDigitLike, hc, Char.isAlphanum] using h
  · exact .inr (Nat.not_lt.mp hc)

/-- All members of the run are mapped above U+007F, or its only member is mapped to a letter. -/
def CaseRun.KeepsNames (r : CaseRun) : Prop :=
  let first : Int := r.members.first + r.shift
  let last : Int := r.members.last + r.shift
  (0x80 ≤ first ∧ (last < 0xD800 ∨ 0xE000 ≤ first ∧ last < 0x110000)) ∨
    (r.members.first = r.members.last ∧ (Char.ofNat first.toNat).isAlphanum = true)

instance (r : CaseRun) : Decidable r.KeepsNames := inferInstanceAs (Decidable (_ ∨ _))

/-- A mapping whose runs keep to the characters of names keeps those above U+007F to them. -/
theorem isNameChar_map {runs : CaseTable} (hruns : ∀ r ∈ runs, r.KeepsNames) {c : Char}
    (hc : 0x80 ≤ c.toNat) : IsNameChar (runs.map c) := by
  rw [CaseTable.map]
  cases hfind : runs.find? (·.members.contains c.toNat) with
  | none => exact .inr hc
  | some r =>
      have hmember := List.find?_some hfind
      simp only [CodeRun.contains, Bool.and_eq_true, decide_eq_true_eq] at hmember
      obtain ⟨⟨hfirst, hlast⟩, -⟩ := hmember
      rcases hruns r (List.mem_of_find?_eq_some hfind) with ⟨hlow, hhigh⟩ | ⟨hone, hletter⟩
      · have hvalid : (c.toNat + r.shift).toNat.isValidChar := by
          rw [Nat.isValidChar]
          omega
        have hcode : (Char.ofNat (c.toNat + r.shift).toNat).toNat = (c.toNat + r.shift).toNat := by
          rw [Char.ofNat, dif_pos hvalid]
          rfl
        refine .inr ?_
        rw [hcode]
        omega
      · have hcode : c.toNat = r.members.first := by omega
        rw [hcode]
        exact .inl hletter

/-- The runs of the mapping to upper case keep to the characters of names. -/
theorem keepsNames_upperShifts : ∀ r ∈ upperShifts, r.KeepsNames := by decide +kernel

/-- The runs of the mapping to lower case keep to the characters of names. -/
theorem keepsNames_lowerShifts : ∀ r ∈ lowerShifts, r.KeepsNames := by decide +kernel

/-- The upper-case forms of several characters consist of characters of names. -/
theorem isNameChar_upperExpansions :
    ∀ p ∈ upperExpansions, ∀ n ∈ p.2, IsNameChar (Char.ofNat n) := by decide +kernel

/-- A mapping that keeps letters and digits below U+0080, one by one, keeps the characters of names
there. -/
theorem isNameChar_of_lt {f : Char → Char}
    (hf : ∀ n < 0x80, (Char.ofNat n).isAlphanum = true → (f (Char.ofNat n)).isAlphanum = true)
    {c : Char} (hlow : c.toNat < 0x80) (hc : isAlphanumeric c = true) : IsNameChar (f c) := by
  have hone := hf c.toNat hlow
  rw [Char.ofNat_toNat] at hone
  exact .inl (hone ((isNameChar_of_isAlphanumeric hc).resolve_right (Nat.not_le.mpr hlow)))

/-- The upper-case form of a letter or digit consists of characters of names. -/
theorem isNameChar_of_mem_upperForm {c d : Char} (hc : isAlphanumeric c = true)
    (h : d ∈ upperForm c) : IsNameChar d := by
  rw [upperForm] at h
  split at h
  · next hlow =>
      rw [List.mem_singleton.mp h]
      exact isNameChar_of_lt (by decide +kernel) hlow hc
  · next hhigh =>
      cases hlookup : upperExpansions.lookup c.toNat with
      | none =>
          rw [hlookup] at h
          rw [List.mem_singleton.mp h]
          exact isNameChar_map keepsNames_upperShifts (Nat.not_lt.mp hhigh)
      | some codes =>
          rw [hlookup] at h
          obtain ⟨n, hn, rfl⟩ := List.mem_map.mp h
          obtain ⟨before, behind, heq, -⟩ := List.lookup_eq_some_iff.mp hlookup
          exact isNameChar_upperExpansions (c.toNat, codes) (heq ▸ by simp) n hn

/-- The lower-case form of a letter or digit consists of characters of names. -/
theorem isNameChar_of_mem_lowerForm {c d : Char} (hc : isAlphanumeric c = true)
    (h : d ∈ lowerForm c) : IsNameChar d := by
  rw [lowerForm] at h
  split at h
  · next hlow =>
      rw [List.mem_singleton.mp h]
      exact isNameChar_of_lt (by decide +kernel) hlow hc
  · next hhigh =>
      split at h
      · rcases List.mem_cons.mp h with rfl | h
        · decide
        · rw [List.mem_singleton.mp h]
          decide
      · rw [List.mem_singleton.mp h]
        exact isNameChar_map keepsNames_lowerShifts (Nat.not_lt.mp hhigh)

end Text

/-! ### Names of types -/

/-- The characters of a fixed word, looked through one by one. -/
theorem isNameChar_of_all {word : List Char}
    (h : (word.all fun c => decide (IsNameChar c)) = true) {c : Char} (hc : c ∈ word) :
    IsNameChar c :=
  of_decide_eq_true (List.all_eq_true.mp h c hc)

/-- Words that are put together consist of characters of names. -/
theorem isNameChar_of_mem_capitalizedWords {cs : List Char} {c : Char}
    (h : c ∈ capitalizedWords cs) : IsNameChar c := by
  obtain ⟨word, hword, hc⟩ := List.mem_flatMap.mp h
  have hall : ∀ d ∈ word, Text.isAlphanumeric d = true := fun d hd => by
    simpa using Text.forall_pieces hword d hd
  cases word with
  | nil => exact absurd hc List.not_mem_nil
  | cons first rest =>
      rw [List.forall_mem_cons] at hall
      rcases List.mem_append.mp hc with hc | hc
      · exact Text.isNameChar_of_mem_upperForm hall.1 hc
      · exact Text.isNameChar_of_isAlphanumeric (hall.2 c hc)

/-- The name of a type by its characters. -/
theorem toList_pascalCase (key : String) :
    (pascalCase key).toList =
      match capitalizedWords key.toList with
      | [] => ['T', 'y', 'p', 'e']
      | c :: rest => if c.isDigit then 'T' :: c :: rest else c :: rest := by
  rw [pascalCase]
  cases capitalizedWords key.toList with
  | nil => rfl
  | cons c rest => exact String.toList_ofList

/-- The name of a type consists of letters, digits and characters above U+007F. -/
theorem isNameChar_of_mem_pascalCase {key : String} {c : Char} (h : c ∈ (pascalCase key).toList) :
    IsNameChar c := by
  have hwords := @isNameChar_of_mem_capitalizedWords key.toList
  rw [toList_pascalCase] at h
  cases hcase : capitalizedWords key.toList with
  | nil =>
      rw [hcase] at h
      have hfixed : c ∈ ['T', 'y', 'p', 'e'] := h
      exact isNameChar_of_all (by decide) hfixed
  | cons first rest =>
      rw [hcase] at h hwords
      dsimp only at h
      split at h
      · rcases List.mem_cons.mp h with rfl | h
        · decide
        · exact hwords h
      · exact hwords h

/-! ### Names of fields -/

/-- Words with underscores between them consist of characters of names and underscores. -/
theorem isNameChar_of_mem_underscored {smallBefore underscoreBefore : Bool} {cs : List Char}
    {c : Char} (h : c ∈ underscored smallBefore underscoreBefore cs) : c = '_' ∨ IsNameChar c := by
  fun_induction underscored smallBefore underscoreBefore cs with
  | case1 => exact absurd h List.not_mem_nil
  | case2 small under d cs hd rest hcap ih =>
      rcases List.mem_cons.mp h with h | h
      · exact .inl h
      · rcases List.mem_append.mp h with h | h
        · exact .inr (Text.isNameChar_of_mem_lowerForm hd h)
        · exact ih h
  | case3 small under d cs hd rest hcap ih =>
      rcases List.mem_append.mp h with h | h
      · exact .inr (Text.isNameChar_of_mem_lowerForm hd h)
      · exact ih h
  | case4 small d cs hd ih => exact ih h
  | case5 small under d cs hd hunder ih =>
      rcases List.mem_cons.mp h with h | h
      · exact .inl h
      · exact ih h

/-- What is left between the underscores at the ends of a text stood in it. -/
theorem mem_of_mem_trimUnderscores {cs : List Char} {c : Char} (h : c ∈ trimUnderscores cs) :
    c ∈ cs := by
  obtain ⟨ends, heq, -⟩ := Text.exists_dropEndWhile (· == '_') (cs.dropWhile (· == '_'))
  refine (List.dropWhile_sublist (· == '_')).subset ?_
  rw [heq]
  exact List.mem_append_left ends h

/-- The name of a field in lower case by its characters. -/
theorem toList_snakeCase (key : String) :
    (snakeCase key).toList =
      if trimUnderscores (underscored false false key.toList) = [] then ['f', 'i', 'e', 'l', 'd']
      else trimUnderscores (underscored false false key.toList) := by
  rw [snakeCase]
  split
  · next h =>
      rw [if_pos h]
      rfl
  · next h => rw [if_neg h, String.toList_ofList]

/-- The name of a field consists of letters, digits, characters above U+007F and underscores. -/
theorem isNameChar_of_mem_snakeCase {key : String} {c : Char} (h : c ∈ (snakeCase key).toList) :
    c = '_' ∨ IsNameChar c := by
  rw [toList_snakeCase] at h
  split at h
  · exact .inr (isNameChar_of_all (by decide) h)
  · exact isNameChar_of_mem_underscored (mem_of_mem_trimUnderscores h)

end JsonWorkbench
