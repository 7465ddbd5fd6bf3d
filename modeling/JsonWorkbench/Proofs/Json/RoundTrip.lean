import JsonWorkbench.Proofs.Json.Scalar
import JsonWorkbench.Proofs.Keyed
import JsonWorkbench.Proofs.Value

/-!
# Written JSON Is Read Back

Both forms of a JSON text are read as the value that they were written for. They differ in the
white space between tokens alone, and the reader skips any white space there; so the proof is about
the writer, whatever its spacing is, and about a reader that does not see the spacing.

A value is read from the start of a text, and what is known of its text is said for every text
that may stand behind it: only a numeral has to know where it ends. The reader makes at most three
nested calls for each character, and opens one container for each level of nesting.

## Main definitions

* `ReadsValue` — a text that is read as a value.

## Main results

* `readsValue_write` — what is written for a value is read as that value.
* `parse_stringify` — documents are read back from both forms of their text.
-/

namespace JsonWorkbench.Json

open Value (nestingItems_le_iff nestingMembers_le_iff)

/-! ### Spacing -/

/-- What stands between tokens is white space. -/
structure Spacing.IsWhite (sp : Spacing) : Prop where
  /-- Lines are broken by white space. -/
  lineBreak : ∀ level, IsGap (sp.lineBreak level)
  /-- White space stands behind a colon. -/
  afterColon : IsGap sp.afterColon

/-- Nothing is white space. -/
theorem isWhite_compact : Spacing.compact.IsWhite := ⟨fun _ => isGap_nil, isGap_nil⟩

/-- Line feeds, blanks and tabs are white space. -/
theorem isWhite_indented (i : Indent) : (Spacing.indented i).IsWhite := by
  have hunit : IsGap i.unit := by
    intro c hc
    cases i with
    | spaces n => rw [(List.mem_replicate.mp hc).2]; rfl
    | tab => rw [List.mem_singleton.mp hc]; rfl
  refine ⟨fun level => List.forall_mem_cons.mpr ⟨rfl, ?_⟩, ?_⟩
  · intro c hc
    obtain ⟨unit, hmem, hc⟩ := List.mem_flatten.mp hc
    rw [(List.mem_replicate.mp hmem).2] at hc
    exact hunit c hc
  · intro c hc
    rw [List.mem_singleton.mp hc]
    rfl

/-- A numeral ends at white space and at any character that is no part of a numeral. -/
theorem endsNumeral_gap_cons {gap : List Char} (hgap : IsGap gap) {c : Char}
    (hc : continuesNumeral c = false) (rest : List Char) : EndsNumeral (gap ++ c :: rest) := by
  cases gap with
  | nil => exact Text.stops_cons.mpr hc
  | cons d gap =>
      have hspace : isSpace d = true := hgap d (List.mem_cons_self ..)
      simp only [isSpace, Bool.or_eq_true, beq_iff_eq] at hspace
      refine Text.stops_cons.mpr ?_
      rcases hspace with ((rfl | rfl) | rfl) | rfl <;> rfl

/-! ### The layout of containers -/

/-- What stands before an item or a member: a comma, unless it is the first one. -/
def separator (first : Bool) : List Char := if first then [] else [',']

/-- The items of an array. -/
def itemsText (sp : Spacing) (level : Nat) (first : Bool) : List Value → List Char
  | [] => []
  | v :: vs =>
    separator first ++ (sp.lineBreak level ++ (write sp level v ++ itemsText sp level false vs))

/-- The members of an object. -/
def membersText (sp : Spacing) (level : Nat) (first : Bool) : Members → List Char
  | [] => []
  | (k, v) :: ms =>
    separator first ++ (sp.lineBreak level ++ '"' :: (k.toList.flatMap escapeChar ++
      '"' :: ':' :: (sp.afterColon ++ (write sp level v ++ membersText sp level false ms))))

/-- What stands before the closing bracket. -/
def closingGap (sp : Spacing) (level : Nat) (isEmpty : Bool) : List Char :=
  if isEmpty then [] else sp.lineBreak level

/-- The items behind the first one. -/
theorem writeItems_eq (sp : Spacing) (level : Nat) (vs : List Value) :
    writeItems sp level vs = itemsText sp level false vs := by
  induction vs with
  | nil => rfl
  | cons v vs ih => rw [writeItems, ih]; rfl

/-- The members behind the first one. -/
theorem writeMembers_eq (sp : Spacing) (level : Nat) (ms : Members) :
    writeMembers sp level ms = membersText sp level false ms := by
  induction ms with
  | nil => rfl
  | cons m ms ih => rw [writeMembers, ih]; simp [membersText, separator, writeString]

/-- An array is its items in brackets. -/
theorem write_array (sp : Spacing) (level : Nat) (vs : List Value) :
    write sp level (.array vs) =
      '[' :: (itemsText sp (level + 1) true vs ++ (closingGap sp level vs.isEmpty ++ [']'])) := by
  cases vs with
  | nil => rfl
  | cons v vs => simp [write, writeItems_eq, itemsText, separator, closingGap]

/-- An object is its members in braces. -/
theorem write_object (sp : Spacing) (level : Nat) (ms : Members) :
    write sp level (.object ms) =
      '{' :: (membersText sp (level + 1) true ms ++ (closingGap sp level ms.isEmpty ++ ['}'])) := by
  cases ms with
  | nil => rfl
  | cons m ms => simp [write, writeMembers_eq, membersText, separator, closingGap, writeString]

/-- White space stands before a closing bracket. -/
theorem isGap_closingGap {sp : Spacing} (hsp : sp.IsWhite) (level : Nat) (isEmpty : Bool) :
    IsGap (closingGap sp level isEmpty) := by
  cases isEmpty with
  | true => exact isGap_nil
  | false => exact hsp.lineBreak level

/-- Behind an item stand a comma or the closing bracket. -/
theorem endsNumeral_itemsText (sp : Spacing) (level : Nat) (vs : List Value) {gap : List Char}
    (hgap : IsGap gap) (rest : List Char) :
    EndsNumeral (itemsText sp level false vs ++ (gap ++ ']' :: rest)) := by
  cases vs with
  | nil => exact endsNumeral_gap_cons hgap (by decide) rest
  | cons v vs => exact Text.stops_cons.mpr (by decide)

/-- Behind a member stand a comma or the closing brace. -/
theorem endsNumeral_membersText (sp : Spacing) (level : Nat) (ms : Members) {gap : List Char}
    (hgap : IsGap gap) (rest : List Char) :
    EndsNumeral (membersText sp level false ms ++ (gap ++ '}' :: rest)) := by
  cases ms with
  | nil => exact endsNumeral_gap_cons hgap (by decide) rest
  | cons m ms => exact Text.stops_cons.mpr (by decide)

/-! ### Values -/

/-- A text is read as a value, whatever stands behind it. -/
structure ReadsValue (cs : List Char) (v : Value) : Prop where
  /-- The text begins with a character that is neither white space nor a closing bracket. -/
  first : ∃ c rest, cs = c :: rest ∧ isSpace c = false ∧ c ≠ ']'
  /-- Reading takes exactly the text. -/
  reads : ∀ {fuel room : Nat} {rest : List Char}, 3 * cs.length ≤ fuel → v.nesting ≤ room →
    EndsNumeral rest → readValue fuel room (cs ++ rest) = .ok (v, rest)

/-- White space before a value is skipped. -/
theorem readValue_gap {gap : List Char} (hgap : IsGap gap) (fuel room : Nat) (cs : List Char) :
    readValue (fuel + 1) room (gap ++ cs) = readValue (fuel + 1) room cs := by
  rw [readValue, readValue, skipSpace_append hgap]

/-- There is fuel for a text that is not empty. -/
theorem exists_fuel {c : Char} {cs : List Char} {fuel : Nat} (h : 3 * (c :: cs).length ≤ fuel) :
    ∃ n, fuel = n + 3 ∧ 3 * cs.length ≤ n := by
  rw [List.length_cons] at h
  exact ⟨fuel - 3, by omega, by omega⟩

/-- There is room for a container around values. -/
theorem exists_room {n room : Nat} (h : n + 1 ≤ room) : ∃ inner, room = inner + 1 ∧ n ≤ inner :=
  ⟨room - 1, by omega, by omega⟩

/-! ### Scalars -/

/-- The words are read. -/
theorem readsValue_word (sp : Spacing) (level : Nat) {v : Value}
    (h : v = .null ∨ ∃ b, v = .bool b) : ReadsValue (write sp level v) v := by
  rcases h with rfl | ⟨(_ | _), rfl⟩
  all_goals
    refine ⟨⟨_, _, rfl, by decide, by decide⟩, fun {fuel room rest} hfuel _ _ => ?_⟩
    obtain ⟨n, rfl, -⟩ := exists_fuel hfuel
    rfl

/-- A string is read. -/
theorem readsValue_string (s : String) : ReadsValue (writeString s) (.string s) := by
  refine ⟨⟨_, _, rfl, by decide, by decide⟩, fun {fuel room rest} hfuel _ _ => ?_⟩
  obtain ⟨n, rfl, -⟩ := exists_fuel hfuel
  have hread := readString_escaped s rest
  simp only [writeString, List.cons_append, List.append_assoc, List.nil_append]
  rw [readValue, skipSpace_cons (by decide)]
  simp [hread, Except.map]

/-- Digits are no white space. -/
theorem isSpace_of_isDigit {c : Char} (hc : c.isDigit = true) : isSpace c = false := by
  rw [← Bool.not_eq_true]
  intro hspace
  simp only [isSpace, Bool.or_eq_true, beq_iff_eq] at hspace
  rcases hspace with ((rfl | rfl) | rfl) | rfl <;> exact absurd hc (by decide)

/-- The first digit of a number begins neither a word nor a string nor a container. -/
theorem readValue_digit {c : Char} (hc : c.isDigit = true) (fuel room : Nat) (cs : List Char) :
    readValue (fuel + 1) room (c :: cs) = readNumber false (c :: cs) := by
  have hne {d : Char} (hd : d.isDigit = false) : (c == d) = false := by
    rw [beq_eq_false_iff_ne]
    rintro rfl
    exact Bool.false_ne_true (hd.symm.trans hc)
  rw [readValue, skipSpace_cons (isSpace_of_isDigit hc)]
  simp [hne (d := 'n') rfl, hne (d := 't') rfl, hne (d := 'f') rfl, hne (d := '-') rfl, hc]

/-- An integer of 64 bits is read. -/
theorem readsValue_integer {n : Int} (h : Number.least ≤ n ∧ n ≤ Number.greatest) :
    ReadsValue (toString n).toList (.int n) := by
  obtain ⟨c, cs, hdigits, hc, -⟩ := exists_digitsOf n.natAbs
  have hle : n.natAbs ≤ maxSignificand := by
    simp only [Number.least, Number.greatest] at h
    simp only [maxSignificand]
    omega
  rw [toList_toString_int]
  by_cases hn : n < 0
  · have hvalue : integerValue true n.natAbs = .int n := by
      have hpos : 0 < n.natAbs ∧ n.natAbs ≤ 0x8000000000000000 := by
        simp only [Number.least] at h
        omega
      have hrange : (0 < n.natAbs && n.natAbs ≤ 0x8000000000000000) = true := by
        rw [Bool.and_eq_true, decide_eq_true_eq, decide_eq_true_eq]
        exact hpos
      have hneg : -(n.natAbs : Int) = n := by omega
      rw [integerValue, Bool.not_true, if_neg Bool.false_ne_true, if_pos hrange, hneg, Value.int]
    rw [if_pos hn]
    refine ⟨⟨'-', _, rfl, by decide, by decide⟩, fun {fuel room rest} hfuel _ hrest => ?_⟩
    obtain ⟨m, rfl, -⟩ := exists_fuel hfuel
    have hminus : readValue (m + 3) room ('-' :: (digitsOf n.natAbs ++ rest)) =
        readNumber true (digitsOf n.natAbs ++ rest) := by
      rw [readValue, skipSpace_cons (by decide)]
      rfl
    rw [List.singleton_append, List.cons_append, hminus, readNumber_digitsOf true hle hrest, hvalue]
  · have hvalue : integerValue false n.natAbs = .int n := by
      have hnonneg : (n.natAbs : Int) = n := by omega
      simp [integerValue, hnonneg, Value.int]
    rw [if_neg hn, List.nil_append]
    refine ⟨⟨c, cs, hdigits, ?_, ?_⟩, fun {fuel room rest} hfuel _ hrest => ?_⟩
    · exact isSpace_of_isDigit hc
    · rintro rfl
      exact absurd hc (by decide)
    · rw [hdigits] at hfuel
      obtain ⟨m, rfl, -⟩ := exists_fuel hfuel
      have hread := readNumber_digitsOf false hle hrest
      rw [hdigits, List.cons_append] at hread ⊢
      rw [readValue_digit hc, hread, hvalue]

/-! ### Arrays -/

section Items

variable {fuel room : Nat} {gap cs rest : List Char} {c : Char}

/-- A closing bracket ends the items. -/
theorem readItems_close (hgap : IsGap gap) (first : Bool) :
    readItems (fuel + 1) room first (gap ++ ']' :: rest) = .ok ([], rest) := by
  rw [readItems, skipSpace_gap_cons hgap (by decide)]
  rfl

/-- Behind a comma, the array does not end. -/
theorem readItems_comma (fuel room : Nat) (cs : List Char) :
    readItems (fuel + 1) room false (',' :: cs) =
      match skipSpace cs with
      | [] => .error (.here .endInValue [])
      | ']' :: more => .error (.next .trailingComma (']' :: more))
      | more => readItem fuel room more := by
  rw [readItems, skipSpace_cons (by decide)]
  rfl

/-- An item stands behind the opening bracket or a comma. -/
theorem readItems_separator (hgap : IsGap gap) (hc : isSpace c = false) (hclose : c ≠ ']')
    (first : Bool) :
    readItems (fuel + 1) room first (separator first ++ (gap ++ c :: cs)) =
      readItem fuel room (c :: cs) := by
  cases first with
  | true =>
      rw [separator, if_pos rfl, List.nil_append, readItems, skipSpace_gap_cons hgap hc]
      simp [hclose]
  | false =>
      rw [separator, if_neg Bool.false_ne_true, List.singleton_append, readItems_comma,
        skipSpace_gap_cons hgap hc]
      split
      · next heq => exact absurd heq (by simp)
      · next heq => exact absurd (List.cons.inj heq).1 hclose
      · rfl

/-- An item and what is read behind it. -/
theorem readItem_of {v : Value} (hv : readValue fuel room cs = .ok (v, rest)) :
    readItem (fuel + 1) room cs =
      (readItems fuel room false rest).map fun (vs, behind) => (v :: vs, behind) := by
  rw [readItem, hv]

end Items

/-- An opening bracket opens an array. -/
theorem readValue_bracket (fuel room : Nat) (cs : List Char) :
    readValue (fuel + 1) (room + 1) ('[' :: cs) =
      (readItems fuel room true cs).map fun (vs, behind) => (.array vs, behind) := by
  rw [readValue, skipSpace_cons (by decide)]
  rfl

section Array

variable {sp : Spacing} (hsp : sp.IsWhite)

include hsp

/-- **The items of an array are read**, up to the closing bracket. -/
theorem readItems_itemsText {level room : Nat} {vs : List Value}
    (h : ∀ v ∈ vs, ReadsValue (write sp level v) v) (hroom : ∀ v ∈ vs, v.nesting ≤ room)
    {gap : List Char} (hgap : IsGap gap) (rest : List Char) (first : Bool) {fuel : Nat}
    (hfuel : 3 * (itemsText sp level first vs).length + 2 ≤ fuel) :
    readItems fuel room first (itemsText sp level first vs ++ (gap ++ ']' :: rest)) =
      .ok (vs, rest) := by
  induction vs generalizing fuel first with
  | nil =>
      obtain ⟨n, rfl⟩ := Nat.exists_eq_add_of_le' hfuel
      exact readItems_close hgap first
  | cons v vs ih =>
      rw [List.forall_mem_cons] at h hroom
      obtain ⟨c, cs, hcs, hspace, hclose⟩ := h.1.first
      have hpos : 0 < (write sp level v).length := by rw [hcs]; exact Nat.succ_pos _
      simp only [itemsText, List.length_append] at hfuel
      obtain ⟨n, rfl⟩ : ∃ n, fuel = n + 2 := ⟨fuel - 2, by omega⟩
      have hfirst : 3 * (write sp level v).length ≤ n := by omega
      have hfurther : 3 * (itemsText sp level false vs).length + 2 ≤ n := by omega
      have hread := h.1.reads hfirst hroom.1 (endsNumeral_itemsText sp level vs hgap rest)
      have hothers := ih h.2 hroom.2 false hfurther
      simp only [itemsText, List.append_assoc]
      rw [hcs, List.cons_append] at hread ⊢
      rw [readItems_separator (hsp.lineBreak level) hspace hclose, readItem_of hread, hothers]
      rfl

/-- **An array is read** if its items are. -/
theorem readsValue_array {level : Nat} {vs : List Value}
    (h : ∀ v ∈ vs, ReadsValue (write sp (level + 1) v) v) :
    ReadsValue (write sp level (.array vs)) (.array vs) := by
  rw [write_array]
  refine ⟨⟨_, _, rfl, by decide, by decide⟩, fun {fuel room rest} hfuel hroom _ => ?_⟩
  obtain ⟨n, rfl, hn⟩ := exists_fuel hfuel
  obtain ⟨inner, rfl, hinner⟩ := exists_room hroom
  rw [nestingItems_le_iff] at hinner
  simp only [List.length_append, List.length_singleton] at hn
  have hfuel : 3 * (itemsText sp (level + 1) true vs).length + 2 ≤ n + 2 := by omega
  have hitems := readItems_itemsText hsp h hinner (isGap_closingGap hsp level vs.isEmpty) rest true
    hfuel
  simp only [List.cons_append, List.append_assoc, List.nil_append]
  rw [readValue_bracket, hitems]
  rfl

end Array

/-! ### Objects -/

section Members

variable {fuel room : Nat} {gap cs rest : List Char}

/-- A closing brace ends the members. -/
theorem readMembers_close (hgap : IsGap gap) (first : Bool) :
    readMembers (fuel + 1) room first (gap ++ '}' :: rest) = .ok ([], rest) := by
  rw [readMembers, skipSpace_gap_cons hgap (by decide)]
  rfl

/-- Behind a comma, the object does not end. -/
theorem readMembers_comma (fuel room : Nat) (cs : List Char) :
    readMembers (fuel + 1) room false (',' :: cs) =
      match skipSpace cs with
      | [] => .error (.here .endInValue [])
      | '"' :: more => readMember fuel room more
      | '}' :: more => .error (.next .trailingComma ('}' :: more))
      | more => .error (.next .keyNotString more) := by
  rw [readMembers, skipSpace_cons (by decide)]
  rfl

/-- A member stands behind the opening brace or a comma. -/
theorem readMembers_separator (hgap : IsGap gap) (first : Bool) :
    readMembers (fuel + 1) room first (separator first ++ (gap ++ '"' :: cs)) =
      readMember fuel room cs := by
  cases first with
  | true =>
      rw [separator, if_pos rfl, List.nil_append, readMembers, skipSpace_gap_cons hgap (by decide)]
      rfl
  | false =>
      rw [separator, if_neg Bool.false_ne_true, List.singleton_append, readMembers_comma,
        skipSpace_gap_cons hgap (by decide)]
      rfl

/-- A member and what is read behind it. -/
theorem readMember_of {key : String} {v : Value} {more : List Char}
    (hkey : readString cs = .ok (key, ':' :: more))
    (hv : readValue fuel room more = .ok (v, rest)) :
    readMember (fuel + 1) room cs =
      (readMembers fuel room false rest).map fun (ms, last) => ((key, v) :: ms, last) := by
  rw [readMember, hkey]
  simp only [skipSpace_cons (c := ':') (by decide), hv]

end Members

/-- An opening brace opens an object. -/
theorem readValue_brace (fuel room : Nat) (cs : List Char) :
    readValue (fuel + 1) (room + 1) ('{' :: cs) =
      (readMembers fuel room true cs).map fun (ms, behind) =>
        (.object (Members.ofPairs ms), behind) := by
  rw [readValue, skipSpace_cons (by decide)]
  rfl

section Object

variable {sp : Spacing} (hsp : sp.IsWhite)

include hsp

/-- **The members of an object are read**, up to the closing brace. -/
theorem readMembers_membersText {level room : Nat} {ms : Members}
    (h : ∀ k v, (k, v) ∈ ms → ReadsValue (write sp level v) v)
    (hroom : ∀ k v, (k, v) ∈ ms → v.nesting ≤ room) {gap : List Char} (hgap : IsGap gap)
    (rest : List Char) (first : Bool) {fuel : Nat}
    (hfuel : 3 * (membersText sp level first ms).length + 2 ≤ fuel) :
    readMembers fuel room first (membersText sp level first ms ++ (gap ++ '}' :: rest)) =
      .ok (ms, rest) := by
  induction ms generalizing fuel first with
  | nil =>
      obtain ⟨n, rfl⟩ := Nat.exists_eq_add_of_le' hfuel
      exact readMembers_close hgap first
  | cons m ms ih =>
      obtain ⟨key, v⟩ := m
      rw [Keyed.forall_mem_cons] at h hroom
      obtain ⟨c, cs, hcs, -, -⟩ := h.1.first
      have hpos : 0 < (write sp level v).length := by rw [hcs]; exact Nat.succ_pos _
      simp only [membersText, List.length_cons, List.length_append] at hfuel
      obtain ⟨n, rfl⟩ : ∃ n, fuel = n + 3 := ⟨fuel - 3, by omega⟩
      have hfurther : 3 * (membersText sp level false ms).length + 2 ≤ n + 1 := by omega
      have hothers := ih h.2 hroom.2 false hfurther
      have hread : readValue (n + 1) room (sp.afterColon ++ (write sp level v ++
          (membersText sp level false ms ++ (gap ++ '}' :: rest)))) =
            .ok (v, membersText sp level false ms ++ (gap ++ '}' :: rest)) := by
        rw [readValue_gap hsp.afterColon]
        exact h.1.reads (by omega) hroom.1 (endsNumeral_membersText sp level ms hgap rest)
      simp only [membersText, List.cons_append, List.append_assoc]
      rw [readMembers_separator (hsp.lineBreak level),
        readMember_of (readString_escaped key _) hread, hothers]
      rfl

/-- **An object is read** if its values are and no key is repeated. -/
theorem readsValue_object {level : Nat} {ms : Members} (hkeys : (ms.map (·.1)).Nodup)
    (h : ∀ k v, (k, v) ∈ ms → ReadsValue (write sp (level + 1) v) v) :
    ReadsValue (write sp level (.object ms)) (.object ms) := by
  have hpairs : Members.ofPairs ms = ms := Keyed.ofPairs_of_nodup hkeys
  rw [write_object]
  refine ⟨⟨_, _, rfl, by decide, by decide⟩, fun {fuel room rest} hfuel hroom _ => ?_⟩
  obtain ⟨n, rfl, hn⟩ := exists_fuel hfuel
  obtain ⟨inner, rfl, hinner⟩ := exists_room hroom
  rw [nestingMembers_le_iff] at hinner
  simp only [List.length_append, List.length_singleton] at hn
  have hfuel : 3 * (membersText sp (level + 1) true ms).length + 2 ≤ n + 2 := by omega
  have hmembers := readMembers_membersText hsp h hinner
    (isGap_closingGap hsp level ms.isEmpty) rest true hfuel
  simp only [List.cons_append, List.append_assoc, List.nil_append]
  rw [readValue_brace, hmembers]
  simp only [Except.map, hpairs]

end Object

/-! ### Documents -/

/-- **What is written for a value is read as that value**, at any level of indentation. -/
theorem readsValue_write {sp : Spacing} (hsp : sp.IsWhite) {v : Value} (hv : v.WellFormed)
    (hi : v.IsIntegral) (level : Nat) : ReadsValue (write sp level v) v := by
  induction v using Value.induct generalizing level with
  | null => exact readsValue_word sp level (.inl rfl)
  | bool b => exact readsValue_word sp level (.inr ⟨b, rfl⟩)
  | number n =>
      cases n with
      | integer n => exact readsValue_integer hv
      | double x => exact absurd hi not_false
  | string s => exact readsValue_string s
  | array vs ih =>
      rw [Value.wellFormed_array_iff] at hv
      rw [Value.isIntegral_array_iff] at hi
      exact readsValue_array hsp fun v hm => ih v hm (hv.2 v hm) (hi v hm) (level + 1)
  | object ms ih =>
      rw [Value.wellFormed_object_iff] at hv
      rw [Value.isIntegral_object_iff] at hi
      exact readsValue_object hsp hv.1 fun k v hm => ih k v hm (hv.2 k v hm) (hi k v hm) (level + 1)

/-- A document is read back from a text with any white space between its tokens. -/
theorem parse_write {sp : Spacing} (hsp : sp.IsWhite) {v : Value} (hv : v.WellFormed)
    (hi : v.IsIntegral) (hn : v.nesting ≤ maxNesting) :
    parse (String.ofList (write sp 0 v)) = .ok v := by
  have hfuel : 3 * (write sp 0 v).length ≤ fuelFor (write sp 0 v) := by rw [fuelFor]; omega
  have hread := (readsValue_write hsp hv hi 0).reads hfuel hn (Text.stops_nil _)
  rw [List.append_nil] at hread
  rw [parse, String.toList_ofList, parseChars, hread]
  rfl

/-- **Documents are read back** from both forms of their text: a value whose numbers are integers
of 64 bits and whose containers are nested at most 127 deep is the value of its indented text, for
every indentation, and of its compact text. -/
theorem parse_stringify {v : Value} (hv : v.WellFormed) (hi : v.IsIntegral)
    (hn : v.nesting ≤ maxNesting) :
    (∀ indent, parse (stringify v indent) = .ok v) ∧ parse (minify v) = .ok v :=
  ⟨fun indent => parse_write (isWhite_indented indent) hv hi hn,
    parse_write isWhite_compact hv hi hn⟩

/-- The least and the greatest integer, containers without members, an empty key, and strings with
a quote, a backslash, a line feed, a control character and characters beyond ASCII. -/
def crampedDocument : Value :=
  .object [("", .array [.int (-0x8000000000000000), .int 0xFFFFFFFFFFFFFFFF, .array [], .object []]),
    ("\"\\\n", .string "\x00\x7f é😀")]

/-- The document is read back, with any indentation and without. -/
theorem parse_stringify_crampedDocument :
    crampedDocument.WellFormed ∧ crampedDocument.IsIntegral ∧
      crampedDocument.nesting ≤ maxNesting ∧
      (∀ indent, parse (stringify crampedDocument indent) = .ok crampedDocument) ∧
      parse (minify crampedDocument) = .ok crampedDocument := by
  have hwell : crampedDocument.WellFormed := by decide
  have hintegral : crampedDocument.IsIntegral := by decide
  have hnesting : crampedDocument.nesting ≤ maxNesting := by decide
  exact ⟨hwell, hintegral, hnesting, parse_stringify hwell hintegral hnesting⟩

end JsonWorkbench.Json
