import JsonWorkbench.Proofs.Condition.Clause
import JsonWorkbench.Proofs.PathText

/-!
# Joined Conditions

Clauses are joined by `||` to groups, and groups by `&&` to a condition. The condition is read, and
an item satisfies it exactly if it satisfies a clause of every group: what stands in one clause does
not bear on the others.

There is one exception. Before a text is cut it is tried as a match, the pattern of which reaches to
the last slash. A text that begins with a field, `=~` and a slash, and ends in a slash and letters,
is one match, even where it joins clauses: their separators become part of the pattern.

## Main definitions

* `Condition.disjunction`, `Condition.conjunction` — the texts that join clauses.
* `Condition.IsClause` — the clauses that can be joined.
* `Condition.Meets` — an item satisfies the condition of a text.
* `Condition.Fuses` — joined clauses have the form of a single match.

## Main results

* `Fuses.exists_opensMatch` — clauses fuse only if one of them begins like a match.
* `parse_conjunction` — what a joined condition means.
* `not_forall_parse_conjunction` — two matches that become one.
-/

namespace JsonWorkbench

/-! ### Joined texts -/

namespace Condition

/-- A group of clauses: one of them has to hold. -/
def disjunction (clauses : List String) : String := " || ".intercalate clauses

/-- Groups of clauses: each of them has to hold. -/
def conjunction (groups : List (List String)) : String :=
  " && ".intercalate (groups.map disjunction)

/-- An item satisfies the condition of a text. -/
def Meets (text : String) (item : Value) : Prop :=
  ∃ c, Condition.parse text = .ok c ∧ c.isMet item = true

/-- A text is a condition of its own that has no operator between clauses in it. -/
structure IsClause (text : String) : Prop where
  /-- It has no "all of". -/
  noAll : ¬['&', '&'] <:+: text.toList
  /-- It has no "any of". -/
  noAny : ¬['|', '|'] <:+: text.toList
  /-- It is read. -/
  accepted : ∃ c, Condition.parse text = .ok c

/-- Clauses that are joined have the form of a single match: all groups together, or the clauses
of a group. -/
def Fuses (groups : List (List String)) : Prop :=
  (2 ≤ groups.length ∧ ConditionText.IsMatch (conjunction groups)) ∨
    ∃ g ∈ groups, 2 ≤ g.length ∧ ConditionText.IsMatch (disjunction g)

/-- Whether an item satisfies the condition of a text is computed by reading it. -/
theorem meets_iff {text : String} {item : Value} :
    Meets text item ↔ (Condition.parse text).toOption.any (·.isMet item) = true := by
  cases hparse : Condition.parse text <;> simp [Meets, hparse, Except.toOption]

/-- A text is a clause of its own if it is read and has no operator in it. -/
theorem isClause_iff {text : String} :
    IsClause text ↔ ¬['&', '&'] <:+: text.toList ∧ ¬['|', '|'] <:+: text.toList ∧
      (Condition.parse text).isOk = true := by
  rw [isOk_iff]
  exact ⟨fun h => ⟨h.noAll, h.noAny, h.accepted⟩, fun h => ⟨h.1, h.2.1, h.2.2⟩⟩

instance (text : String) (item : Value) : Decidable (Meets text item) :=
  decidable_of_iff _ meets_iff.symm

instance (text : String) : Decidable (IsClause text) := decidable_of_iff _ isClause_iff.symm

instance (groups : List (List String)) : Decidable (Fuses groups) :=
  inferInstanceAs (Decidable (_ ∨ _))

end Condition

namespace ConditionText

open Text (trim splitText hasText)

/-! ### Reading between separators -/

/-- A text between doubled separators: a match, the combination of its parts, or, where there is
no separator, a single part. -/
def readJoined (whole : String) (c : Char) (combine : List Clause → Clause)
    (part single : List Char → Except Error Clause) (text : List Char) : Except Error Clause :=
  let cs := trim text
  match readMatch? whole cs with
  | some result => result
  | none =>
    if hasText [c, c] cs then ((splitText [c, c] cs).mapM part).map combine else single cs

/-- What "any of" reads. -/
theorem readAny_eq (whole : String) :
    readAny whole =
      readJoined whole '|' .any (fun cs => readPiece whole (trim cs)) (readSimple whole) := rfl

/-- What "all of" reads. -/
theorem readClause_eq (whole : String) :
    readClause whole = readJoined whole '&' .all (readAny whole) (readAny whole) := rfl

section Joined

variable {α : Type} {whole : String} {c : Char} {combine : List Clause → Clause}
  {part single : List Char → Except Error Clause}

/-- A text without a separator is a match or a single part. -/
theorem readJoined_of_free {cs : List Char} (h : ¬[c, c] <:+: cs) :
    readJoined whole c combine part single cs =
      match readMatch? whole (trim cs) with
      | some result => result
      | none => single (trim cs) := by
  have hnone : ¬hasText [c, c] (trim cs) = true := fun hsome =>
    h ((Text.hasText_iff.mp hsome).trans (Text.trim_isInfix cs))
  simp only [readJoined, if_neg hnone]

/-- Joined texts that are no match are read one by one. -/
theorem readJoined_intercalate {xs : List α} {text : α → List Char} (htwo : 2 ≤ xs.length)
    (hblank : Text.isBlank c = false) (hfree : ∀ x ∈ xs, ¬[c, c] <:+: text x)
    (hpart : ∀ cs, part (trim cs) = part cs)
    (hmatch : readMatch? whole (trim ([' ', c, c, ' '].intercalate (xs.map text))) = none) :
    readJoined whole c combine part single ([' ', c, c, ' '].intercalate (xs.map text)) =
      (xs.mapM fun x => part (text x)).map combine := by
  have hne : xs.map text ≠ [] := by
    rintro hnil
    rw [List.map_eq_nil_iff.mp hnil] at htwo
    simp at htwo
  have hfree' : ∀ cs ∈ xs.map text, ¬[c, c] <:+: cs := List.forall_mem_map.mpr hfree
  have hsome := Text.hasText_trim_intercalate hblank (by simpa using htwo) hfree'
  have htrim : (part ∘ trim) = part := funext hpart
  simp only [readJoined, hmatch, hsome, if_true]
  rw [← htrim, ← List.mapM_map, Text.map_trim_splitText_intercalate hblank hne hfree',
    List.mapM_map, htrim, List.mapM_map]
  rfl

end Joined

/-- Blanks around a text make no difference to "any of". -/
theorem readAny_trim (whole : String) (cs : List Char) :
    readAny whole (trim cs) = readAny whole cs := by
  simp only [readAny, Text.trim_trim]

/-- A text without `||` is read as one clause. -/
theorem readAny_of_free {cs : List Char} (h : ¬['|', '|'] <:+: cs) (whole : String) :
    readAny whole cs = readPiece whole (trim cs) := by
  rw [readAny_eq, readJoined_of_free h]
  rfl

/-- A text without `&&` is read as "any of". -/
theorem readClause_of_free {cs : List Char} (h : ¬['&', '&'] <:+: cs) (whole : String) :
    readClause whole cs = readAny whole cs := by
  rw [readClause_eq, readJoined_of_free h, readAny_trim, readAny]
  cases readMatch? whole (trim cs) <;> rfl

/-! ### What joined texts mean -/

section Means

variable {α : Type} {whole : String} {xs : List α} {text : α → List Char} {P : α → Value → Prop}

/-- A list that is not empty and has no two members is one member. -/
theorem exists_eq_singleton (hne : xs ≠ []) (htwo : ¬2 ≤ xs.length) : ∃ x, xs = [x] := by
  rw [← List.length_eq_one_iff]
  have hpos := List.length_pos_iff.mpr hne
  omega

/-- Clauses joined by `||` mean that one of them holds. -/
theorem means_readAny (hne : xs ≠ []) (hfree : ∀ x ∈ xs, ¬['|', '|'] <:+: text x)
    (hmeans : ∀ x ∈ xs, Means (readPiece whole (trim (text x))) (P x))
    (hmatch : 2 ≤ xs.length →
      readMatch? whole (trim ([' ', '|', '|', ' '].intercalate (xs.map text))) = none) :
    Means (readAny whole ([' ', '|', '|', ' '].intercalate (xs.map text)))
      fun item => ∃ x ∈ xs, P x item := by
  by_cases htwo : 2 ≤ xs.length
  · have hpart : ∀ cs, readPiece whole (trim (trim cs)) = readPiece whole (trim cs) := fun cs => by
      rw [Text.trim_trim]
    rw [readAny_eq, readJoined_intercalate htwo (by decide) hfree hpart (hmatch htwo)]
    exact means_any hmeans
  · obtain ⟨x, rfl⟩ := exists_eq_singleton hne htwo
    rw [List.forall_mem_singleton] at hfree hmeans
    rw [List.map_singleton, List.intercalate_singleton, readAny_of_free hfree]
    simpa using hmeans

/-- Texts joined by `&&` mean that all of them hold. -/
theorem means_readClause (hne : xs ≠ []) (hfree : ∀ x ∈ xs, ¬['&', '&'] <:+: text x)
    (hmeans : ∀ x ∈ xs, Means (readAny whole (text x)) (P x))
    (hmatch : 2 ≤ xs.length →
      readMatch? whole (trim ([' ', '&', '&', ' '].intercalate (xs.map text))) = none) :
    Means (readClause whole ([' ', '&', '&', ' '].intercalate (xs.map text)))
      fun item => ∀ x ∈ xs, P x item := by
  by_cases htwo : 2 ≤ xs.length
  · rw [readClause_eq, readJoined_intercalate htwo (by decide) hfree (readAny_trim whole)
      (hmatch htwo)]
    exact means_all hmeans
  · obtain ⟨x, rfl⟩ := exists_eq_singleton hne htwo
    rw [List.forall_mem_singleton] at hfree hmeans
    rw [List.map_singleton, List.intercalate_singleton, readClause_of_free hfree]
    simpa using hmeans

end Means

end ConditionText

/-! ### Joined conditions -/

namespace Condition

open ConditionText

/-- The characters of a group. -/
theorem toList_disjunction (clauses : List String) :
    (disjunction clauses).toList = [' ', '|', '|', ' '].intercalate (clauses.map String.toList) :=
  String.toList_intercalate ..

/-- The characters of a condition. -/
theorem toList_conjunction (groups : List (List String)) :
    (conjunction groups).toList =
      [' ', '&', '&', ' '].intercalate (groups.map fun g => (disjunction g).toList) := by
  rw [conjunction, String.toList_intercalate, List.map_map]
  rfl

/-- **Clauses fuse only if one of them begins like a match**: comparisons and fields can be joined
without further thought. -/
theorem Fuses.exists_opensMatch {groups : List (List String)} (hgroups : ∀ g ∈ groups, g ≠ [])
    (h : Fuses groups) : ∃ g ∈ groups, ∃ t ∈ g, OpensMatch t.toList := by
  have hgroup : ∀ g ∈ groups, OpensMatch (disjunction g).toList →
      ∃ g ∈ groups, ∃ t ∈ g, OpensMatch t.toList := by
    intro g hg hopens
    rw [toList_disjunction] at hopens
    obtain ⟨cs, hcs, hopens⟩ := hopens.of_intercalate (.inr rfl) (by simpa using hgroups g hg)
    obtain ⟨t, ht, rfl⟩ := List.mem_map.mp hcs
    exact ⟨g, hg, t, ht, hopens⟩
  rcases h with ⟨htwo, hmatch⟩ | ⟨g, hg, -, hmatch⟩
  · have hne : groups ≠ [] := by
      rintro rfl
      simp at htwo
    have hopens := hmatch.opensMatch
    rw [toList_conjunction] at hopens
    obtain ⟨cs, hcs, hopens⟩ := hopens.of_intercalate (.inl rfl) (by simpa using hne)
    obtain ⟨g, hg, rfl⟩ := List.mem_map.mp hcs
    exact hgroup g hg hopens
  · exact hgroup g hg hmatch.opensMatch

/-- A text that is no match is not read as one. -/
theorem readMatch?_eq_none {text : String} (h : ¬IsMatch text) (whole : String) :
    readMatch? whole (Text.trim text.toList) = none := by
  rw [isMatch_iff, Bool.not_eq_true, Option.isSome_eq_false_iff, Option.isNone_iff_eq_none] at h
  rw [readMatch?, h]
  rfl

/-- What a clause means within a text is what it means alone. -/
theorem IsClause.means {text : String} (h : IsClause text) (whole : String) :
    Means (readPiece whole (Text.trim text.toList)) (Meets text) := by
  obtain ⟨c, hc⟩ := h.accepted
  have hparse : Condition.parse text =
      (readPiece text (Text.trim text.toList)).map fun clause =>
        { source := trimmed text, clause } := by
    rw [Condition.parse, readClause_of_free h.noAll, readAny_of_free h.noAny]
  rw [readPiece_eq_mapError whole text]
  refine Means.mapError ?_ _
  cases hread : readPiece text (Text.trim text.toList) with
  | error e =>
      rw [hparse, hread] at hc
      cases hc
  | ok clause =>
      rw [hread] at hparse
      refine ⟨clause, rfl, fun item => ⟨fun hholds => ⟨_, hparse, hholds⟩, ?_⟩⟩
      rintro ⟨c', hc', hmet⟩
      rw [hparse] at hc'
      cases hc'
      exact hmet

/-- A group is read, and one of its clauses has to hold. -/
theorem means_disjunction {clauses : List String} (hne : clauses ≠ [])
    (hclauses : ∀ t ∈ clauses, IsClause t)
    (hmatch : 2 ≤ clauses.length → ¬IsMatch (disjunction clauses)) (whole : String) :
    Means (readAny whole (disjunction clauses).toList)
      fun item => ∃ t ∈ clauses, Meets t item := by
  have hmatch' := fun htwo => readMatch?_eq_none (hmatch htwo) whole
  rw [toList_disjunction] at hmatch' ⊢
  exact means_readAny hne (fun t ht => (hclauses t ht).noAny)
    (fun t ht => (hclauses t ht).means whole) hmatch'

end Condition

open Condition in
/-- **Joined clauses mean their joined meanings**, unless they fuse to a single match: the joined
text is a condition, which an item satisfies exactly if it satisfies a clause of every group. -/
theorem parse_conjunction {groups : List (List String)} (hne : groups ≠ [])
    (hgroups : ∀ g ∈ groups, g ≠ []) (hclauses : ∀ g ∈ groups, ∀ t ∈ g, IsClause t)
    (hfuses : ¬Fuses groups) :
    ∃ c, Condition.parse (conjunction groups) = .ok c ∧
      ∀ item, c.isMet item = true ↔ ∀ g ∈ groups, ∃ t ∈ g, Meets t item := by
  rw [Fuses, not_or] at hfuses
  obtain ⟨hall, hany⟩ := hfuses
  have hfree : ∀ g ∈ groups, ¬['&', '&'] <:+: (disjunction g).toList := fun g hg => by
    rw [toList_disjunction]
    exact Text.not_doubled_infix_intercalate (by decide) (by decide)
      (List.forall_mem_map.mpr fun t ht => (hclauses g hg t ht).noAll)
  have hmeans : ∀ g ∈ groups, ConditionText.Means
      (ConditionText.readAny (conjunction groups) (disjunction g).toList)
      fun item => ∃ t ∈ g, Meets t item := fun g hg =>
    means_disjunction (hgroups g hg) (hclauses g hg)
      (fun htwo hmatch => hany ⟨g, hg, htwo, hmatch⟩) _
  have hmatch := fun htwo : 2 ≤ groups.length =>
    readMatch?_eq_none (fun hmatch => hall ⟨htwo, hmatch⟩) (conjunction groups)
  rw [toList_conjunction] at hmatch
  obtain ⟨clause, hread, hclause⟩ := ConditionText.means_readClause hne hfree hmeans hmatch
  refine ⟨{ source := trimmed (conjunction groups), clause }, ?_, hclause⟩
  rw [Condition.parse, toList_conjunction, hread]
  rfl

/-- A comparison or a match, and a match or a field. -/
def mixedGroups : List (List String) :=
  [["@.kind == 'box'", "@.name =~ /^b/i"], ["@.name =~ /x$/", "@.open"]]

open Condition in
/-- Clauses of all kinds that do not fuse mean their joined meanings. -/
theorem parse_conjunction_mixedGroups :
    mixedGroups ≠ [] ∧ (∀ g ∈ mixedGroups, g ≠ []) ∧
      (∀ g ∈ mixedGroups, ∀ t ∈ g, IsClause t) ∧ ¬Fuses mixedGroups ∧
      ∃ c, Condition.parse (conjunction mixedGroups) = .ok c ∧
        ∀ item, c.isMet item = true ↔ ∀ g ∈ mixedGroups, ∃ t ∈ g, Meets t item := by
  have hgroups : mixedGroups ≠ [] ∧ ∀ g ∈ mixedGroups, g ≠ [] := by decide
  have hclauses : ∀ g ∈ mixedGroups, ∀ t ∈ g, IsClause t := by decide +kernel
  have hfuses : ¬Fuses mixedGroups := by decide +kernel
  exact ⟨hgroups.1, hgroups.2, hclauses, hfuses,
    parse_conjunction hgroups.1 hgroups.2 hclauses hfuses⟩

/-- Two matches. -/
def twoMatches : List (List String) := [["@.a =~ /x/"], ["@.b =~ /y/"]]

/-- An item that satisfies both of them. -/
def matchedItem : Value := .object [("a", .string "x"), ("b", .string "y")]

open Condition in
/-- Two matches that are joined by `&&` are read as one, whose pattern the item does not match. -/
theorem not_forall_parse_conjunction :
    ¬∀ groups : List (List String), groups ≠ [] → (∀ g ∈ groups, g ≠ []) →
      (∀ g ∈ groups, ∀ t ∈ g, IsClause t) →
      ∃ c, Condition.parse (conjunction groups) = .ok c ∧
        ∀ item, c.isMet item = true ↔ ∀ g ∈ groups, ∃ t ∈ g, Meets t item := by
  intro h
  have hclauses : ∀ g ∈ twoMatches, ∀ t ∈ g, IsClause t := by decide +kernel
  have hmeets : ∀ g ∈ twoMatches, ∃ t ∈ g, Meets t matchedItem := by decide +kernel
  have hjoined : ¬Meets (conjunction twoMatches) matchedItem := by decide +kernel
  obtain ⟨c, hparse, hc⟩ := h twoMatches (by decide) (by decide) hclauses
  exact hjoined ⟨c, hparse, (hc matchedItem).mpr hmeets⟩

end JsonWorkbench
