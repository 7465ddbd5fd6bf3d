import JsonWorkbench.Proofs.Declaration
import JsonWorkbench.Proofs.Declaration.Closure

/-!
# Which Fields Share a Name

The name of a field is what the convention of a language leaves of its key, and marks that make it
a name: a letter or an underscore in front of a digit, an underscore behind a reserved word, or
`r#` in front of it. The convention gives many keys one name and nothing tells them apart
afterwards. The marks do not add to that, since they can be taken off again: a name without marks
neither begins nor ends with an underscore and has no `#`. What does add to it is the letter in
front of a digit and the fixed name of a key without words, as both are words of other keys too.

## Main definitions

* `IsTrimmed` — a text without underscores at its ends.
* `Language.SharesName` — two keys that get one name.

## Main results

* `dropEndWhile_pythonFieldName`, `withoutMark_rustFieldName` — the marks can be taken off.
* `fieldName_eq_iff` — the keys with one name.
* `declarations_sharesName` — the fields of a declaration with one name.
-/

namespace JsonWorkbench

/-! ### Names without underscores at their ends -/

/-- A text that neither begins nor ends with an underscore, and has a character. -/
structure IsTrimmed (cs : List Char) : Prop where
  /-- It does not begin with an underscore. -/
  first : ∃ c rest, cs = c :: rest ∧ c ≠ '_'
  /-- It does not end with an underscore. -/
  last : ∃ start c, cs = start ++ [c] ∧ c ≠ '_'

/-- Of a text without the underscores at its ends nothing is left, or it is trimmed. -/
theorem trimUnderscores_cases (cs : List Char) :
    trimUnderscores cs = [] ∨ IsTrimmed (trimUnderscores cs) := by
  rw [trimUnderscores]
  cases hstart : cs.dropWhile (· == '_') with
  | nil => exact .inl rfl
  | cons c rest =>
      have hc : (c == '_') = false := by
        have hhead := List.head?_dropWhile_not (· == '_') cs
        rw [hstart, List.head?_cons] at hhead
        simpa using hhead
      have hcons := Text.dropEndWhile_cons (p := (· == '_')) hc rest
      refine .inr ⟨⟨c, _, hcons, by simpa using hc⟩, ?_⟩
      obtain ⟨-, -, -, hnil | ⟨start, d, heq, hd⟩⟩ :=
        Text.exists_dropEndWhile (· == '_') (c :: rest)
      · exact absurd (hcons.symm.trans hnil) (List.cons_ne_nil _ _)
      · exact ⟨start, d, heq, by simpa using hd⟩

/-- A name in lower case is trimmed. -/
theorem isTrimmed_snakeCase (key : String) : IsTrimmed (snakeCase key).toList := by
  rw [toList_snakeCase]
  split
  · exact ⟨⟨'f', _, rfl, by decide⟩, ⟨['f', 'i', 'e', 'l'], 'd', rfl, by decide⟩⟩
  · next hwords => exact (trimUnderscores_cases _).resolve_left hwords

/-! ### Marks -/

/-- A name in lower case has an underscore in front of a digit. -/
theorem toList_plainFieldName (key : String) :
    (plainFieldName key).toList =
      match (snakeCase key).toList with
      | c :: rest => if c.isDigit then '_' :: c :: rest else c :: rest
      | [] => [] := by
  rw [plainFieldName]
  cases h : (snakeCase key).toList with
  | nil => exact h
  | cons c rest =>
      dsimp only
      split
      · rw [String.toList_append, h]
        rfl
      · exact h

/-- The underscore in front of a digit tells no keys apart and makes none alike. -/
theorem plainFieldName_inj {key key' : String} :
    plainFieldName key = plainFieldName key' ↔ snakeCase key = snakeCase key' := by
  constructor
  · intro h
    obtain ⟨c, rest, hname, hc⟩ := (isTrimmed_snakeCase key).first
    obtain ⟨c', rest', hname', hc'⟩ := (isTrimmed_snakeCase key').first
    rw [← String.toList_inj, toList_plainFieldName, toList_plainFieldName, hname, hname'] at h
    rw [← String.toList_inj, hname, hname']
    dsimp only at h
    split at h <;> split at h
    · exact (List.cons.inj h).2
    · exact absurd (List.cons.inj h).1.symm hc'
    · exact absurd (List.cons.inj h).1 hc
    · exact h
  · intro h
    rw [plainFieldName, plainFieldName, h]

/-- A name in lower case does not end with an underscore. -/
theorem dropEndWhile_plainFieldName (key : String) :
    Text.dropEndWhile (· == '_') (plainFieldName key).toList = (plainFieldName key).toList := by
  obtain ⟨c, rest, hfirst, -⟩ := (isTrimmed_snakeCase key).first
  obtain ⟨start, d, hlast, hd⟩ := (isTrimmed_snakeCase key).last
  have hstay : ∀ before, Text.dropEndWhile (· == '_') (before ++ [d]) = before ++ [d] :=
    fun before => Text.dropEndWhile_concat (p := (· == '_')) (by simpa using hd) before
  rw [toList_plainFieldName, hfirst]
  dsimp only
  rw [← hfirst, hlast]
  split
  · exact hstay ('_' :: start)
  · exact hstay start

/-- A name in lower case has letters, digits, characters above U+007F and underscores. -/
theorem isNameChar_of_mem_plainFieldName {key : String} {c : Char}
    (h : c ∈ (plainFieldName key).toList) : c = '_' ∨ IsNameChar c := by
  rw [toList_plainFieldName] at h
  split at h
  · next first rest hname =>
      have hsnake : ∀ d ∈ first :: rest, d = '_' ∨ IsNameChar d := fun d hd =>
        isNameChar_of_mem_snakeCase (hname ▸ hd)
      split at h
      · rcases List.mem_cons.mp h with h | h
        · exact .inl h
        · exact hsnake c h
      · exact hsnake c h
  · exact absurd h List.not_mem_nil

/-- The underscore behind a reserved word can be taken off. -/
theorem dropEndWhile_pythonFieldName (key : String) :
    Text.dropEndWhile (· == '_') (pythonFieldName key).toList = (plainFieldName key).toList := by
  rw [pythonFieldName]
  split
  · rw [String.toList_append, Text.dropEndWhile_append_of_forall (by simp),
      dropEndWhile_plainFieldName]
  · exact dropEndWhile_plainFieldName key

/-- The marks of Python make no keys alike. -/
theorem pythonFieldName_inj {key key' : String} :
    pythonFieldName key = pythonFieldName key' ↔ plainFieldName key = plainFieldName key' := by
  constructor
  · intro h
    rw [← String.toList_inj, ← dropEndWhile_pythonFieldName, h, dropEndWhile_pythonFieldName]
  · intro h
    rw [pythonFieldName, pythonFieldName, h]

/-- An identifier without the mark that makes a name of a reserved word. -/
def withoutMark : List Char → List Char
  | 'r' :: '#' :: rest => rest
  | cs => cs

/-- Where there is no mark, none is taken off. -/
theorem withoutMark_of_not_mem {cs : List Char} (h : '#' ∉ cs) : withoutMark cs = cs := by
  unfold withoutMark
  split
  · exact absurd (by simp) h
  · rfl

/-- The mark in front of a reserved word can be taken off; some words have an underscore behind
them in its place. -/
theorem withoutMark_rustFieldName (key : String) :
    withoutMark (rustFieldName key).toList =
      (plainFieldName key).toList ++
        if rustPathWords.contains (plainFieldName key) then ['_'] else [] := by
  have hfree : '#' ∉ (plainFieldName key).toList := fun hmem =>
    absurd (isNameChar_of_mem_plainFieldName hmem) (by decide)
  rw [rustFieldName]
  split
  · rw [String.toList_append]
    exact withoutMark_of_not_mem (by simp [hfree])
  · split
    · rw [String.toList_append, List.append_nil]
      rfl
    · rw [List.append_nil, withoutMark_of_not_mem hfree]

/-- A name in Rust without any marks. -/
theorem dropEndWhile_withoutMark (key : String) :
    Text.dropEndWhile (· == '_') (withoutMark (rustFieldName key).toList) =
      (plainFieldName key).toList := by
  rw [withoutMark_rustFieldName, Text.dropEndWhile_append_of_forall, dropEndWhile_plainFieldName]
  intro c hc
  split at hc
  · rw [List.mem_singleton.mp hc]
    rfl
  · exact absurd hc List.not_mem_nil

/-- The marks of Rust make no keys alike. -/
theorem rustFieldName_inj {key key' : String} :
    rustFieldName key = rustFieldName key' ↔ plainFieldName key = plainFieldName key' := by
  constructor
  · intro h
    rw [← String.toList_inj, ← dropEndWhile_withoutMark, h, dropEndWhile_withoutMark]
  · intro h
    rw [rustFieldName, rustFieldName, h]

/-! ### Keys with one name -/

namespace Language

/-- What the convention of a language leaves of a key. -/
def words (l : Language) (key : String) : List Char :=
  match l with
  | .typeScript => key.toList
  | .go => capitalizedWords key.toList
  | .python | .rust => trimUnderscores (underscored false false key.toList)

/-- The words that stand for a key without words. -/
def wordsOfNone : Language → List Char
  | .typeScript => []
  | .go => ['T', 'y', 'p', 'e']
  | .python | .rust => ['f', 'i', 'e', 'l', 'd']

/-- The words of a key make no name, and the words that stand for them are those of another key. -/
def Borrows (l : Language) (key key' : String) : Prop :=
  l.words key = [] ∧ l.words key' = l.wordsOfNone ∨
    l = .go ∧ ∃ c rest, l.words key = c :: rest ∧ c.isDigit = true ∧
      l.words key' = 'T' :: c :: rest

/-- Two keys have the same words, or the words that one of them borrows are those of the other. -/
def SharesName (l : Language) (key key' : String) : Prop :=
  l.words key = l.words key' ∨ l.Borrows key key' ∨ l.Borrows key' key

end Language

/-- Names of types agree where the keys have the same words, or one borrows them. -/
theorem pascalCase_eq_iff {key key' : String} :
    pascalCase key = pascalCase key' ↔ Language.go.SharesName key key' := by
  have hletters : ∀ c : Char, c.isDigit = true → c ≠ 'T' ∧ c ≠ 'y' := by
    intro c hc
    constructor <;> rintro rfl <;> exact absurd hc (by decide)
  rw [← String.toList_inj, toList_pascalCase, toList_pascalCase]
  simp only [Language.SharesName, Language.Borrows, Language.words, Language.wordsOfNone, true_and]
  rcases capitalizedWords key.toList with - | ⟨c, rest⟩ <;>
    rcases capitalizedWords key'.toList with - | ⟨c', rest'⟩
  · simp
  · grind
  · grind
  · grind

/-- Names in lower case agree where the keys have the same words, or one borrows them. -/
theorem snakeCase_eq_iff {l : Language} (hl : l = .python ∨ l = .rust) {key key' : String} :
    snakeCase key = snakeCase key' ↔ l.SharesName key key' := by
  rw [← String.toList_inj, toList_snakeCase, toList_snakeCase]
  rcases hl with rfl | rfl <;>
    simp only [Language.SharesName, Language.Borrows, Language.words, Language.wordsOfNone,
      reduceCtorEq, false_and, or_false] <;>
    grind

/-- **Keys with one name**: the marks make no difference. -/
theorem fieldName_eq_iff {l : Language} (hl : l ≠ .typeScript) {key key' : String} :
    l.fieldName key = l.fieldName key' ↔ l.SharesName key key' := by
  cases l with
  | typeScript => exact absurd rfl hl
  | go => rw [Language.fieldName, Language.fieldName, pascalCase_eq_iff]
  | python =>
      rw [Language.fieldName, Language.fieldName, pythonFieldName_inj, plainFieldName_inj,
        snakeCase_eq_iff (.inl rfl)]
  | rust =>
      rw [Language.fieldName, Language.fieldName, rustFieldName_inj, plainFieldName_inj,
        snakeCase_eq_iff (.inr rfl)]

/-- A key that looks like a marked word has the words of that word: it loses its own underscore
before it gets the mark. -/
example : Language.python.fieldName "class" = "class_" ∧
    Language.python.fieldName "class_" = "class_" := by decide

/-! ### Fields of a declaration -/

/-- What the walk over items comes to, it comes to in one of them. -/
theorem exists_of_mem_itemVisits {l : Language} {name : String} {count : Nat} {vs : List Value}
    {r : Registry} {o : Visit} (h : o ∈ itemVisits l name count vs r) :
    ∃ v ∈ vs, ∃ r', o ∈ visits l name v r' := by
  induction vs generalizing count r with
  | nil => exact absurd h List.not_mem_nil
  | cons v vs ih =>
      cases count with
      | zero => exact absurd h List.not_mem_nil
      | succ count =>
          rcases List.mem_append.mp h with h | h
          · exact ⟨v, List.mem_cons_self .., r, h⟩
          · obtain ⟨w, hw, hvisit⟩ := ih h
            exact ⟨w, List.mem_cons_of_mem _ hw, hvisit⟩

/-- What the walk over members comes to, it comes to in the value of one of them. -/
theorem exists_of_mem_memberVisits {l : Language} {ms : Members} {r : Registry} {o : Visit}
    (h : o ∈ memberVisits l ms r) : ∃ k v, (k, v) ∈ ms ∧ ∃ r', o ∈ visits l k v r' := by
  induction ms generalizing r with
  | nil => exact absurd h List.not_mem_nil
  | cons m ms ih =>
      obtain ⟨k, v⟩ := m
      rcases List.mem_append.mp h with h | h
      · exact ⟨k, v, List.mem_cons_self .., r, h⟩
      · obtain ⟨k', w, hw, hvisit⟩ := ih h
        exact ⟨k', w, List.mem_cons_of_mem _ hw, hvisit⟩

/-- An object that the walk comes to has no key twice, in a well-formed value. -/
theorem nodup_keys_of_mem_visits {l : Language} {v : Value} (hv : v.WellFormed) {name : String}
    {r : Registry} {o : Visit} (ho : o ∈ visits l name v r) : o.members.keys.Nodup := by
  induction v using Value.induct generalizing name r with
  | null | bool _ | number _ | string _ => exact absurd ho List.not_mem_nil
  | array vs ih =>
      rw [visits] at ho
      obtain ⟨w, hw, r', hvisit⟩ := exists_of_mem_itemVisits ho
      exact ih w hw ((Value.wellFormed_array_iff.mp hv).2 w hw) hvisit
  | object ms ih =>
      rw [Value.wellFormed_object_iff] at hv
      rw [visits] at ho
      rcases List.mem_cons.mp ho with rfl | ho
      · exact hv.1
      · split at ho
        · exact absurd ho List.not_mem_nil
        · obtain ⟨k, w, hw, r', hvisit⟩ := exists_of_mem_memberVisits ho
          exact ih k w hw (hv.2 k w hw) hvisit

/-- A declaration of a document has a field for every key of an object that the walk comes to. -/
theorem exists_visit_of_mem_declarations {l : Language} {rootName : String} {v : Value}
    {name : String} {fields : List Declaration.Field}
    (h : (name, fields) ∈ declarations l rootName v) :
    ∃ o ∈ visits l rootName v [],
      pascalCase o.name = name ∧ fields.map (·.key) = o.members.keys := by
  have hget := Keyed.get?_of_mem (closed_declarations l rootName v).nodup h
  have hkeys := declaredKeys_inferType l v rootName name []
  rw [← declarations, declaredKeys, hget, Option.map_some, declaredKeys, Keyed.get?,
    Option.map_none, Option.none_or, firstKeys, eq_comm, Option.map_eq_some_iff] at hkeys
  obtain ⟨o, hfind, hsame⟩ := hkeys
  exact ⟨o, List.mem_of_find?_eq_some hfind, by simpa using List.find?_some hfind, hsame.symm⟩

/-- **The fields of a declaration with one name.** In a language other than TypeScript, a
declaration has a field for every key of an object of the document. These keys are all different,
and two of the fields have one name exactly if the convention leaves the same words of their keys,
or the words of one key make no name and those that stand for them are the words of the other. -/
theorem declarations_sharesName {l : Language} (hl : l ≠ .typeScript) {rootName : String}
    {v : Value} (hv : v.WellFormed) {name : String} {fields : List Declaration.Field}
    (h : (name, fields) ∈ declarations l rootName v) :
    (∃ o ∈ visits l rootName v [],
      pascalCase o.name = name ∧ fields.map (·.key) = o.members.keys) ∧
    fields.Pairwise fun f g =>
      f.key ≠ g.key ∧ (f.name l = g.name l ↔ l.SharesName f.key g.key) := by
  obtain ⟨o, ho, hname, hkeys⟩ := exists_visit_of_mem_declarations h
  refine ⟨⟨o, ho, hname, hkeys⟩, ?_⟩
  have hnodup := nodup_keys_of_mem_visits hv ho
  rw [← hkeys, List.Nodup, List.pairwise_map] at hnodup
  exact hnodup.imp fun hne => ⟨hne, fieldName_eq_iff hl⟩

/-- An object with two spellings of one name, and a reserved word. -/
def twoSpellings : Value :=
  .object [("user_name", .bool true), ("user-name", .bool false), ("class", .bool true)]

/-- The fields for it. -/
def spelledFields : List Declaration.Field :=
  [⟨"user_name", .basic .boolean, false⟩, ⟨"user-name", .basic .boolean, false⟩,
    ⟨"class", .basic .boolean, false⟩]

/-- The two spellings share a name, and neither shares it with the word. -/
theorem declarations_sharesName_twoSpellings :
    Language.python ≠ .typeScript ∧ twoSpellings.WellFormed ∧
      ("Root", spelledFields) ∈ declarations .python "Root" twoSpellings ∧
      (∃ o ∈ visits .python "Root" twoSpellings [],
        pascalCase o.name = "Root" ∧ spelledFields.map (·.key) = o.members.keys) ∧
      spelledFields.Pairwise fun f g =>
        f.key ≠ g.key ∧
          (f.name .python = g.name .python ↔ Language.python.SharesName f.key g.key) := by
  have hl : Language.python ≠ .typeScript := by decide
  have hv : twoSpellings.WellFormed := by decide
  have hr : declarations .python "Root" twoSpellings = [("Root", spelledFields)] := by rfl
  have hmem : ("Root", spelledFields) ∈ declarations .python "Root" twoSpellings := by simp [hr]
  exact ⟨hl, hv, hmem, declarations_sharesName hl hv hmem⟩

/-- Two keys of an object can get one name. -/
theorem not_forall_fieldName_ne :
    ¬∀ (l : Language) (rootName : String) (v : Value) (name : String)
        (fields : List Declaration.Field), l ≠ .typeScript → v.WellFormed →
      (name, fields) ∈ declarations l rootName v →
      fields.Pairwise fun f g => f.key ≠ g.key → f.name l ≠ g.name l := by
  intro h
  have hv : twoSpellings.WellFormed := by decide
  have hr : declarations .go "Root" twoSpellings = [("Root", spelledFields)] := by rfl
  have hname : Language.go.fieldName "user_name" = Language.go.fieldName "user-name" := by rfl
  have hpair := h .go "Root" twoSpellings "Root" spelledFields (by decide) hv (by simp [hr])
  rw [spelledFields, List.pairwise_cons] at hpair
  exact hpair.1 _ (List.mem_cons_self ..) (by decide) hname

end JsonWorkbench
