import JsonWorkbench.Proofs.Numeral.Double
import JsonWorkbench.Proofs.Xml.RoundTrip

/-!
# A Second Round Trip Loses Nothing

What the first reading of a document as elements makes of it is lossy: keys become names, members
whose names coincide are collected in one array, arrays in arrays are joined, and texts lose the
blanks around them and become numbers and truth values. But everything that it yields has a form of
its own (`IsRead`), and a value of this form is written and read as itself. The induction that
shows the form is on the value that is written; elements are collected one by one, and `Collected`
is what the members satisfy after each of them.

A double comes back as itself if its text is read as the same double; this is the only thing that
is asked of the value.

## Main definitions

* `IsRead` — the values that elements are read as.
* `Collected` — the members that elements have been collected in.

## Main results

* `isRead_of_mem_elementsOf` — every value is read as such values.
* `IsRead.readsAsItself` — such a value is read as itself.
* `decode_encode_settles` — the second round trip changes nothing.
-/

namespace JsonWorkbench.Xml

/-- A value that elements are read as. Its texts have no blanks around them and say nothing else;
its objects have members, under names, and an array is the value of a member and has at least two
items, none of them an array. -/
inductive IsRead : Value → Prop
  /-- The null value. -/
  | null : IsRead .null
  /-- A truth value. -/
  | bool (b : Bool) : IsRead (.bool b)
  /-- A number that can be represented. -/
  | number (n : Number) (h : n.WellFormed) : IsRead (.number n)
  /-- A text that is read as itself. -/
  | string (s : String) (h : textValue (Text.trim s.toList) = .string s) : IsRead (.string s)
  /-- An object. -/
  | object (ms : Members) (hne : ms ≠ []) (hkeys : (ms.map (·.1)).Nodup)
      (hname : ∀ k v, (k, v) ∈ ms → elementName k = k)
      (hvalue : ∀ k v, (k, v) ∈ ms → v.kind ≠ .array → IsRead v)
      (hlength : ∀ k vs, (k, .array vs) ∈ ms → 2 ≤ vs.length)
      (hitem : ∀ k vs v, (k, .array vs) ∈ ms → v ∈ vs → IsRead v) :
      IsRead (.object ms)

/-- No value of an element is an array. -/
theorem IsRead.kind_ne {v : Value} (h : IsRead v) : v.kind ≠ .array := by
  cases h <;> simp [Value.kind]

/-! ### Texts -/

/-- A number that a text stands for can be represented. -/
theorem exists_number_of_coerceNumber? {text : String} {v : Value}
    (h : coerceNumber? text = some v) : ∃ n, v = .number n ∧ n.WellFormed := by
  rw [coerceNumber?] at h
  cases hread : readInteger? text.toList with
  | some n =>
      rw [hread] at h
      refine ⟨.integer n, (Option.some.inj h).symm, ?_⟩
      simp only [readInteger?] at hread
      split_ifs at hread with hdigits hneg hrange hrange
      all_goals
        obtain rfl := Option.some.inj hread
        rw [Bool.and_eq_true, decide_eq_true_eq, decide_eq_true_eq] at hrange
        exact hrange
  | none =>
      simp only [hread] at h
      split at h
      · obtain ⟨x, -, hx⟩ := Option.bind_eq_some_iff.mp h
        unfold Value.ofFloat? at hx
        split at hx
        · next hfinite => exact ⟨.double x, (Option.some.inj hx).symm, hfinite⟩
        · cases hx
      · cases h

/-- Text between tags is read as such a value. -/
theorem isRead_textValue (cs : List Char) : IsRead (textValue (Text.trim cs)) := by
  cases hnumber : coerceNumber? (String.ofList (Text.trim cs)) with
  | some v =>
      obtain ⟨n, rfl, hn⟩ := exists_number_of_coerceNumber? hnumber
      have hvalue : textValue (Text.trim cs) = .number n := by simp only [textValue, hnumber]
      exact hvalue ▸ .number n hn
  | none =>
      by_cases htrue : String.ofList (Text.trim cs) = "true"
      · rw [htrue] at hnumber
        have hvalue : textValue (Text.trim cs) = .bool true := by simp [textValue, hnumber, htrue]
        exact hvalue ▸ .bool true
      by_cases hfalse : String.ofList (Text.trim cs) = "false"
      · rw [hfalse] at hnumber
        have hvalue : textValue (Text.trim cs) = .bool false := by
          simp [textValue, hnumber, hfalse]
        exact hvalue ▸ .bool false
      have hvalue : textValue (Text.trim cs) = .string (String.ofList (Text.trim cs)) := by
        simp [textValue, hnumber, htrue, hfalse]
      -- the text has been trimmed before, so that it is read the same way again
      rw [hvalue]
      exact .string _ (by rw [String.toList_ofList, Text.trim_trim, hvalue])

/-! ### Collecting -/

/-- Members that elements have been collected in: the value under each name is that of an element,
or it is an array of the values of two or more. -/
structure Collected (ms : Members) : Prop where
  /-- No name is repeated. -/
  keys : (ms.map (·.1)).Nodup
  /-- The keys are names. -/
  name : ∀ k v, (k, v) ∈ ms → elementName k = k
  /-- The values under them. -/
  value : ∀ k v, (k, v) ∈ ms →
    IsRead v ∨ ∃ vs, v = .array vs ∧ 2 ≤ vs.length ∧ ∀ w ∈ vs, IsRead w

namespace Collected

/-- There are no members. -/
theorem nil : Collected [] := ⟨List.nodup_nil, by simp, by simp⟩

/-- A value is put under a name. -/
theorem insert {ms : Members} (h : Collected ms) {k : String} {v : Value} (hk : elementName k = k)
    (hv : IsRead v ∨ ∃ vs, v = .array vs ∧ 2 ≤ vs.length ∧ ∀ w ∈ vs, IsRead w) :
    Collected (ms.insert k v) where
  keys := Keyed.nodup_insert h.keys k v
  name l w hmem := by
    rcases Keyed.mem_of_mem_insert hmem with heq | hmem
    · cases heq
      exact hk
    · exact h.name l w hmem
  value l w hmem := by
    rcases Keyed.mem_of_mem_insert hmem with heq | hmem
    · cases heq
      exact hv
    · exact h.value l w hmem

/-- **One more element** is collected. -/
theorem collectOne {ms : Members} (h : Collected ms) {element : String × Value}
    (hname : elementName element.1 = element.1) (hvalue : IsRead element.2) :
    Collected (collectOne ms element) := by
  obtain ⟨k, v⟩ := element
  rw [Xml.collectOne, accumulate]
  cases hget : Members.get? ms k with
  | none => exact h.insert hname (.inl hvalue)
  | some first =>
      have hfirst := h.value k first (Keyed.mem_of_get? hget)
      rcases hfirst with hread | ⟨vs, rfl, hlength, hvs⟩
      · have hpair : ∀ w ∈ [first, v], IsRead w := by simp [hread, hvalue]
        cases hread with
        | null | bool | number | string | object =>
            exact h.insert hname (.inr ⟨_, rfl, Nat.le_refl 2, hpair⟩)
      · refine h.insert hname (.inr ⟨_, rfl, by simp; omega, ?_⟩)
        exact List.forall_mem_append.mpr ⟨hvs, by simpa using hvalue⟩

/-- The elements of a document or of another element are collected. -/
theorem collect {elements : List (String × Value)}
    (h : ∀ e ∈ elements, elementName e.1 = e.1 ∧ IsRead e.2) : Collected (collect elements) := by
  have hfold : ∀ ms, Collected ms → Collected (elements.foldl Xml.collectOne ms) := by
    induction elements with
    | nil => exact fun _ hms => hms
    | cons e elements ih =>
        rw [List.forall_mem_cons] at h
        exact fun ms hms => ih h.2 _ (hms.collectOne h.1.1 h.1.2)
  exact hfold [] nil

/-- An object of such members, if there are any, is read from its elements. -/
theorem isRead {ms : Members} (h : Collected ms) (hne : ms ≠ []) : IsRead (.object ms) := by
  refine .object ms hne h.keys h.name ?_ ?_ ?_
  · intro k v hmem hkind
    rcases h.value k v hmem with hread | ⟨vs, rfl, -⟩
    · exact hread
    · exact absurd rfl hkind
  · intro k vs hmem
    rcases h.value k _ hmem with hread | ⟨ws, heq, hlength, -⟩
    · exact absurd rfl hread.kind_ne
    · cases heq
      exact hlength
  · intro k vs v hmem hv
    rcases h.value k _ hmem with hread | ⟨ws, heq, -, hws⟩
    · exact absurd rfl hread.kind_ne
    · cases heq
      exact hws v hv

end Collected

/-- Something is collected from elements. -/
theorem collect_ne_nil {elements : List (String × Value)} (hne : elements ≠ []) :
    collect elements ≠ [] := by
  have hinsert : ∀ (ms : Members) k v, ms.insert k v ≠ [] := by
    intro ms k v hnil
    have hget := Keyed.get?_insert ms k k v
    have hnil' : Keyed.insert ms k v = [] := hnil
    rw [hnil', if_pos rfl] at hget
    cases hget
  have hone : ∀ ms e, Xml.collectOne ms e ≠ [] := by
    intro ms e
    rw [collectOne, accumulate]
    split <;> exact hinsert _ _ _
  obtain ⟨front, e, rfl⟩ : ∃ front e, elements = front ++ [e] :=
    ⟨_, _, (List.dropLast_concat_getLast hne).symm⟩
  rw [collect, List.foldl_append]
  exact hone _ e

/-! ### What is read -/

/-- **Every value is read as such values**, under names. -/
theorem isRead_of_mem_elementsOf (v : Value) {name : List Char} (hname : nameOf name = name)
    {element : String × Value} (h : element ∈ elementsOf name v) :
    elementName element.1 = element.1 ∧ IsRead element.2 := by
  have hself : elementName (String.ofList name) = String.ofList name := by
    rw [elementName, String.toList_ofList, hname]
  induction v using Value.induct generalizing name element with
  | null =>
      obtain rfl := List.mem_singleton.mp h
      exact ⟨hself, .null⟩
  | bool b =>
      obtain rfl := List.mem_singleton.mp h
      exact ⟨hself, .bool b⟩
  | number n =>
      obtain rfl := List.mem_singleton.mp h
      exact ⟨hself, isRead_textValue _⟩
  | string s =>
      obtain rfl := List.mem_singleton.mp h
      exact ⟨hself, isRead_textValue _⟩
  | array vs ih =>
      cases vs with
      | nil =>
          obtain rfl := List.mem_singleton.mp h
          exact ⟨hself, .null⟩
      | cons v vs =>
          have hitems : element ∈ elementsOfItems name (v :: vs) := h
          rw [elementsOfItems_eq_flatMap, List.mem_flatMap] at hitems
          obtain ⟨w, hw, hitem⟩ := hitems
          exact ih w hw hname hitem hself
  | object ms ih =>
      have hmembers : ∀ e ∈ elementsOfMembers ms, elementName e.1 = e.1 ∧ IsRead e.2 := by
        intro e he
        rw [elementsOfMembers_eq_flatMap, List.mem_flatMap] at he
        obtain ⟨⟨k, w⟩, hm, hmember⟩ := he
        have hkey := nameOf_nameOf k.toList
        refine ih k w hm hkey hmember ?_
        rw [elementName, String.toList_ofList, hkey]
      cases ms with
      | nil =>
          obtain rfl := List.mem_singleton.mp h
          exact ⟨hself, .null⟩
      | cons m ms =>
          obtain rfl := List.mem_singleton.mp h
          refine ⟨hself, (Collected.collect hmembers).isRead ?_⟩
          exact collect_ne_nil (List.append_ne_nil_of_left_ne_nil (elementsOf_ne_nil _ _) _)

/-- The value of a document is such a value. -/
theorem isRead_rootValue {elements : List (String × Value)} (hne : elements ≠ [])
    (h : ∀ e ∈ elements, elementName e.1 = e.1 ∧ IsRead e.2) : IsRead (rootValue elements) := by
  unfold rootValue
  split
  · exact (h _ (List.mem_singleton_self _)).2
  · exact (Collected.collect h).isRead (collect_ne_nil hne)

/-! ### What is read again -/

/-- The text of a number that is read back is read as the number. -/
theorem textValue_number {n : Number} (h : n.WellFormed) (hback : ReadsBack n) :
    textValue (Text.trim (Json.writeNumber n)) = .number n := by
  rw [trim_writeNumber, textValue]
  simp only [coerceNumber?_writeNumber h hback]

/-- **A value that elements are read as is read as itself**, if its numbers are read back. -/
theorem IsRead.readsAsItself {v : Value} (h : IsRead v) (hback : v.NumbersSatisfy ReadsBack) :
    ReadsAsItself v := by
  induction h with
  | null => exact ⟨IsRead.null.kind_ne, fun _ => rfl⟩
  | bool b => exact ⟨(IsRead.bool b).kind_ne, fun _ => rfl⟩
  | number n hn =>
      exact ⟨(IsRead.number n hn).kind_ne,
        fun name => congrArg (fun w => [(String.ofList name, w)]) (textValue_number hn hback)⟩
  | string s hs =>
      exact ⟨(IsRead.string s hs).kind_ne,
        fun name => congrArg (fun w => [(String.ofList name, w)]) hs⟩
  | object ms hne hkeys hname hvalue hlength hitem ihvalue ihitem =>
      rw [Value.numbersSatisfy_object_iff] at hback
      exact readsAsItself_object hne hkeys hname
        (fun k v hmem hkind => ihvalue k v hmem hkind (hback k v hmem)) hlength
        fun k vs v hmem hv => ihitem k vs v hmem hv
          (Value.numbersSatisfy_array_iff.mp (hback k _ hmem) v hv)

/-- **The second round trip changes nothing.** Every value, written as elements under any name, is
read as some value, and if the doubles of this value are read back from their texts, it is written
and read as itself. -/
theorem decode_encode_settles (v : Value) (rootName : String) :
    ∃ w, decode (encode v rootName) = .ok w ∧
      (w.NumbersSatisfy ReadsBack → decode (encode w rootName) = .ok w) := by
  have hread : IsRead (rootValue (elementsOf (nameOf rootName.toList) v)) :=
    isRead_rootValue (elementsOf_ne_nil _ v)
      fun e he => isRead_of_mem_elementsOf v (nameOf_nameOf _) he
  exact ⟨_, decode_encode v rootName,
    fun hback => decode_encode_of_readsAsItself (hread.readsAsItself hback) rootName⟩

/-- Two roots; keys that become one name, an array in an array, and texts with blanks and marks. -/
def tangle : Value :=
  .array [.object [("a b", .string " 1e3 "), ("a_b", .array [.array [], .string "<x>",
    .array [.number (.double (-0.5))]])], .string " 007 "]

/-- What the first round trip makes of it. -/
def untangled : Value :=
  .object [("_1st", .array [.object [("a_b", .array [.number (.double 1000.0), .null,
    .string "<x>", .number (.double (-0.5))])], .int 7])]

/-- It is read as something else, and this is read as itself. -/
theorem decode_encode_settles_tangle :
    decode (encode tangle "1st") = .ok untangled ∧ untangled.NumbersSatisfy ReadsBack ∧
      decode (encode untangled "1st") = .ok untangled := by
  have hroots : rootValue (elementsOf (nameOf "1st".toList) tangle) = untangled := by rfl
  have hfirst : decode (encode tangle "1st") = .ok untangled := by rw [decode_encode, hroots]
  have hback : untangled.NumbersSatisfy ReadsBack := by
    refine ⟨⟨⟨⟨?_, trivial, trivial, ?_, trivial⟩, trivial⟩, trivial, trivial⟩, trivial⟩
    · rfl
    · rfl
  obtain ⟨w, hw, hsettles⟩ := decode_encode_settles tangle "1st"
  obtain rfl : untangled = w := Except.ok.inj (hfirst.symm.trans hw)
  exact ⟨hfirst, hback, hsettles hback⟩

end JsonWorkbench.Xml
