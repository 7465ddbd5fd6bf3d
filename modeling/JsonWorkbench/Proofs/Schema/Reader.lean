import JsonWorkbench.Proofs.Json.RoundTrip
import JsonWorkbench.Proofs.Within
import JsonWorkbench.Schema.Printer
import JsonWorkbench.Schema.Reader

/-!
# Reading the Parts of Schemas

A schema is read in one pass, and every container that it opens takes from the room that is left.
Whether the room suffices is decided by the nesting of the part alone, so that every statement here
says both what is read and what is refused.

## Main definitions

* `ReadsPart` — the text of a part, whatever stands behind it.
* `Fills` — the fields of a schema, filled in one after another.

## Main results

* `readsPart_list`, `readsPart_map` — lists and objects of parts.
* `readsPart_of_fills` — a schema is read if its fields are.
-/

namespace JsonWorkbench.Schema

open Json (IsGap EndsNumeral Spacing isSpace skipSpace_append skipSpace_cons skipSpace_gap_cons
  itemsText membersText separator closingGap)
open Value (nestingItems nestingMembers)

/-! ### Parts -/

variable {α β : Type} {room n : Nat}

/-- A fault of a part that is too deep. -/
def IsTooDeep (f : LoadFault) : Prop := f.cause = .json .tooDeep

/-- A text is read as a part that needs `n` containers, whatever stands behind it. -/
structure ReadsPart (read : List Char → Except LoadFault (α × List Char)) (room : Nat)
    (cs : List Char) (n : Nat) (a : α) : Prop where
  /-- The text begins neither with white space nor with a closing bracket nor as the word for
  nothing. -/
  first : ∃ c rest, cs = c :: rest ∧ isSpace c = false ∧ c ≠ ']' ∧ c ≠ 'n'
  /-- Reading takes exactly the text, if there is room. -/
  within : ∀ rest, EndsNumeral rest → Within IsTooDeep room (a, rest) n (read (cs ++ rest))

namespace ReadsPart

variable {read : List Char → Except LoadFault (α × List Char)} {cs : List Char} {a : α}

/-- A part that is changed. -/
theorem andThen (h : ReadsPart read room cs n a) (f : α → β) :
    ReadsPart (fun cs => (read cs).map fun (a, rest) => (f a, rest)) room cs n (f a) :=
  ⟨h.first, fun rest hrest => (h.within rest hrest).map fun (a, rest) => (f a, rest)⟩

/-- A part that may be missing and is there. -/
theorem optional (h : ReadsPart read room cs n a) :
    ReadsPart (readOptional read) room cs n (some a) := by
  refine ⟨h.first, fun rest hrest => ?_⟩
  obtain ⟨c, cs, rfl, hspace, -, hword⟩ := h.first
  have hread : readOptional read (c :: cs ++ rest) =
      (read (c :: cs ++ rest)).map fun (a, b) => (some a, b) := by
    unfold readOptional
    rw [List.cons_append, skipSpace_cons hspace]
    split
    · next heq => exact absurd (List.cons.inj heq).1 hword
    · rfl
  rw [hread]
  exact (h.within rest hrest).map fun (a, b) => (some a, b)

end ReadsPart

/-! ### Texts and types -/

/-- A text is read. -/
theorem readsPart_text (sp : Spacing) (level room : Nat) (s : String) :
    ReadsPart readText room (Json.write sp level (.string s)) 0 s := by
  refine ⟨⟨_, _, rfl, by decide, by decide, by decide⟩, fun rest _ => ?_⟩
  have hread : readText (Json.write sp level (.string s) ++ rest) = .ok (s, rest) := by
    simp only [Json.write, Json.writeString, List.cons_append, List.append_assoc, List.nil_append]
    rw [readText, skipSpace_cons (by decide)]
    simp only [Json.readString_escaped, lift]
    rfl
  rw [hread]
  exact .fits (Nat.zero_le room)

/-- A type is known by its name. -/
theorem TypeName.ofName?_name (t : TypeName) : TypeName.ofName? t.name = some t := by
  cases t <;> rfl

/-- What begins with a quote is no list and no object, and a text names a type. -/
theorem readTypes_quote {room : Nat} {cs rest : List Char} {s : String}
    (h : readAny room ('"' :: cs) = .ok (.string s, rest)) :
    readTypes room ('"' :: cs) = .ok ((TypeName.ofName? s).map .one, rest) := by
  have hname : readTypeName room ('"' :: cs) = .ok (TypeName.ofName? s, rest) := by
    rw [readTypeName, skipSpace_cons (by decide)]
    exact congrArg (Except.map fun p => (typeOfValue? p.1, p.2)) h
  rw [readTypes, skipSpace_cons (by decide)]
  exact congrArg (Except.map fun p => (p.1.map TypeSpec.one, p.2)) hname

/-- The name of a type is read as that type. -/
theorem readsPart_typeName (sp : Spacing) (level room : Nat) (enclosure : Enclosure)
    (t : TypeName) :
    ReadsPart (readTypeSpec room enclosure) room (Json.write sp level t.toValue) 0 (.one t) := by
  refine ⟨⟨_, _, rfl, by decide, by decide, by decide⟩, fun rest hrest => ?_⟩
  have hvalue : readAny room (Json.write sp level t.toValue ++ rest) = .ok (t.toValue, rest) := by
    have hfuel : 3 * (Json.writeString t.name).length ≤
        Json.fuelFor (Json.writeString t.name ++ rest) := by
      rw [Json.fuelFor, List.length_append]
      omega
    have hread := (Json.readsValue_string t.name).reads hfuel (Nat.zero_le room) hrest
    exact congrArg lift hread
  have hspec : readTypeSpec room enclosure (Json.write sp level t.toValue ++ rest) =
      .ok (.one t, rest) := by
    have htypes : readTypes room (Json.write sp level t.toValue ++ rest) =
        .ok ((TypeName.ofName? t.name).map .one, rest) := readTypes_quote hvalue
    rw [readTypeSpec, htypes, TypeName.ofName?_name]
    rfl
  rw [hspec]
  exact .fits (Nat.zero_le room)

/-! ### Lists -/

section Separators

variable {gap cs : List Char} {c : Char}

/-- A closing bracket ends the items. -/
theorem continueItems_close (hgap : IsGap gap) (first : Bool) :
    continueItems first (gap ++ ']' :: cs) = .ok (.closed cs) := by
  rw [continueItems, skipSpace_gap_cons hgap (by decide)]
  rfl

/-- Behind a comma, the list does not end. -/
theorem continueItems_comma (cs : List Char) : continueItems false (',' :: cs) =
    match Json.skipSpace cs with
    | [] => .error (jsonHere .endInValue [])
    | ']' :: more => .error (jsonNext .trailingComma (']' :: more))
    | more => .ok (.item more) := by
  rw [continueItems, skipSpace_cons (by decide)]
  rfl

/-- An item stands behind the opening bracket or a comma. -/
theorem continueItems_separator (hgap : IsGap gap) (hc : isSpace c = false) (hclose : c ≠ ']')
    (first : Bool) :
    continueItems first (separator first ++ (gap ++ c :: cs)) = .ok (.item (c :: cs)) := by
  cases first with
  | true =>
      rw [separator, if_pos rfl, List.nil_append, continueItems, skipSpace_gap_cons hgap hc]
      simp [hclose]
  | false =>
      rw [separator, if_neg Bool.false_ne_true, List.singleton_append, continueItems_comma,
        skipSpace_gap_cons hgap hc]
      split
      · next heq => exact absurd heq (by simp)
      · next heq => exact absurd (List.cons.inj heq).1 hclose
      · rfl

/-- A closing brace ends the members. -/
theorem continueMembers_close (hgap : IsGap gap) (first : Bool) :
    continueMembers first (gap ++ '}' :: cs) = .ok (.closed cs) := by
  rw [continueMembers, skipSpace_gap_cons hgap (by decide)]
  rfl

/-- Behind a comma, the object does not end. -/
theorem continueMembers_comma (cs : List Char) : continueMembers false (',' :: cs) =
    match Json.skipSpace cs with
    | [] => .error (jsonHere .endInValue [])
    | '"' :: more => .ok (.item more)
    | '}' :: more => .error (jsonNext .trailingComma ('}' :: more))
    | more => .error (jsonNext .keyNotString more) := by
  rw [continueMembers, skipSpace_cons (by decide)]
  rfl

/-- A member stands behind the opening brace or a comma. -/
theorem continueMembers_separator (hgap : IsGap gap) (first : Bool) :
    continueMembers first (separator first ++ (gap ++ '"' :: cs)) = .ok (.item cs) := by
  cases first with
  | true =>
      rw [separator, if_pos rfl, List.nil_append, continueMembers,
        skipSpace_gap_cons hgap (by decide)]
      rfl
  | false =>
      rw [separator, if_neg Bool.false_ne_true, List.singleton_append, continueMembers_comma,
        skipSpace_gap_cons hgap (by decide)]
      rfl

/-- A colon stands behind a key. -/
theorem readColon_cons (cs : List Char) : readColon (':' :: cs) = .ok cs := by
  rw [readColon, skipSpace_cons (by decide)]
  rfl

end Separators

section Containers

variable {sp : Spacing} (hsp : sp.IsWhite) {read : List Char → Except LoadFault (α × List Char)}
  {enc : α → Value}

include hsp

/-- **The items of a list are read**, up to the closing bracket, or the first that is too deep is
refused. -/
theorem within_readItems {level : Nat} {as : List α}
    (h : ∀ a ∈ as, ReadsPart read room (Json.write sp level (enc a)) (enc a).nesting a)
    {gap : List Char} (hgap : IsGap gap) (rest : List Char) (first : Bool) {fuel : Nat}
    (hfuel : (itemsText sp level first (as.map enc)).length < fuel) :
    Within IsTooDeep room (as, rest) (nestingItems (as.map enc))
      (readItems read fuel first (itemsText sp level first (as.map enc) ++ (gap ++ ']' :: rest))) := by
  induction as generalizing fuel first with
  | nil =>
      obtain ⟨n, rfl⟩ := Nat.exists_eq_add_of_le' hfuel
      have hclose : readItems read (n + 1) first (gap ++ ']' :: rest) = .ok ([], rest) := by
        rw [readItems, continueItems_close hgap]
      exact hclose ▸ .fits (Nat.zero_le room)
  | cons a as ih =>
      rw [List.forall_mem_cons] at h
      obtain ⟨c, cs, hcs, hspace, hclose, -⟩ := h.1.first
      have hpos : 0 < (Json.write sp level (enc a)).length := by rw [hcs]; exact Nat.succ_pos _
      simp only [List.map_cons, itemsText, List.length_append] at hfuel
      obtain ⟨n, rfl⟩ : ∃ n, fuel = n + 1 := ⟨fuel - 1, by omega⟩
      have hread := h.1.within _ (Json.endsNumeral_itemsText sp level (as.map enc) hgap rest)
      have hfurther : (itemsText sp level false (as.map enc)).length < n := by omega
      have hothers := (ih h.2 false hfurther).map fun p => (a :: p.1, p.2)
      have hcons : readItems read (n + 1) first
          (itemsText sp level first ((a :: as).map enc) ++ (gap ++ ']' :: rest)) =
            (read (Json.write sp level (enc a) ++
              (itemsText sp level false (as.map enc) ++ (gap ++ ']' :: rest)))).bind
              fun p => (readItems read n false p.2).map fun q => (p.1 :: q.1, q.2) := by
        simp only [List.map_cons, itemsText, List.append_assoc, hcs, List.cons_append]
        rw [readItems, continueItems_separator (hsp.lineBreak level) hspace hclose]
        simp only
        cases read (c :: (cs ++ (itemsText sp level false (List.map enc as) ++
          (gap ++ ']' :: rest)))) <;> rfl
      rw [hcons]
      exact hread.bind hothers

/-- **A list is read** if its items are, with room for one container less. -/
theorem readsPart_list {level : Nat} {as : List α}
    (h : ∀ a ∈ as, ReadsPart read (room - 1) (Json.write sp (level + 1) (enc a)) (enc a).nesting a) :
    ReadsPart (readList room read) room (Json.write sp level (.array (as.map enc)))
      (Value.array (as.map enc)).nesting as := by
  rw [Json.write_array]
  refine ⟨⟨_, _, rfl, by decide, by decide, by decide⟩, fun rest _ => ?_⟩
  rw [List.cons_append, readList, skipSpace_cons (by decide)]
  simp only [List.append_assoc, List.singleton_append]
  cases room with
  | zero => exact .tooDeep (Nat.succ_pos _) rfl
  | succ room =>
      rw [if_neg (Nat.succ_ne_zero room)]
      refine (within_readItems hsp h (Json.isGap_closingGap hsp level _) rest true ?_).opened
      simp only [List.length_append, List.length_cons]
      omega

/-- **The members of an object are read**, up to the closing brace, or the first that is too deep
is refused. -/
theorem within_readPairs (hread : ∀ (gap cs : List Char), IsGap gap → read (gap ++ cs) = read cs)
    {level : Nat} {ps : List (String × α)}
    (h : ∀ p ∈ ps, ReadsPart read room (Json.write sp level (enc p.2)) (enc p.2).nesting p.2)
    {gap : List Char} (hgap : IsGap gap) (rest : List Char) (first : Bool) {fuel : Nat}
    (hfuel : (membersText sp level first (ps.map fun p => (p.1, enc p.2))).length < fuel) :
    Within IsTooDeep room (ps, rest) (nestingMembers (ps.map fun p => (p.1, enc p.2)))
      (readPairs read fuel first
        (membersText sp level first (ps.map fun p => (p.1, enc p.2)) ++ (gap ++ '}' :: rest))) := by
  induction ps generalizing fuel first with
  | nil =>
      obtain ⟨n, rfl⟩ := Nat.exists_eq_add_of_le' hfuel
      have hclose : readPairs read (n + 1) first (gap ++ '}' :: rest) = .ok ([], rest) := by
        rw [readPairs, continueMembers_close hgap]
      exact hclose ▸ .fits (Nat.zero_le room)
  | cons p ps ih =>
      obtain ⟨key, a⟩ := p
      rw [List.forall_mem_cons] at h
      simp only [List.map_cons, membersText, List.length_append, List.length_cons] at hfuel
      obtain ⟨n, rfl⟩ : ∃ n, fuel = n + 1 := ⟨fuel - 1, by omega⟩
      have ha := h.1.within _
        (Json.endsNumeral_membersText sp level (ps.map fun p => (p.1, enc p.2)) hgap rest)
      have hfurther : (membersText sp level false (ps.map fun p => (p.1, enc p.2))).length < n := by
        omega
      have hothers := (ih h.2 false hfurther).map fun p => ((key, a) :: p.1, p.2)
      have hcons : readPairs read (n + 1) first
          (membersText sp level first (((key, a) :: ps).map fun p => (p.1, enc p.2)) ++
            (gap ++ '}' :: rest)) =
            (read (Json.write sp level (enc a) ++
              (membersText sp level false (ps.map fun p => (p.1, enc p.2)) ++
                (gap ++ '}' :: rest)))).bind
              fun p => (readPairs read n false p.2).map fun q => ((key, p.1) :: q.1, q.2) := by
        simp only [List.map_cons, membersText, List.append_assoc, List.cons_append]
        rw [readPairs, continueMembers_separator (hsp.lineBreak level)]
        simp only [Json.readString_escaped, lift, Except.mapError, readColon_cons]
        rw [hread _ _ hsp.afterColon]
        cases read (Json.write sp level (enc a) ++
          (membersText sp level false (List.map (fun p => (p.1, enc p.2)) ps) ++
            (gap ++ '}' :: rest))) <;> rfl
      rw [hcons]
      exact ha.bind hothers

/-- **An object with any keys is read** if its values are, with room for one container less. -/
theorem readsPart_map (hread : ∀ (gap cs : List Char), IsGap gap → read (gap ++ cs) = read cs)
    {level : Nat} {ps : List (String × α)}
    (h : ∀ p ∈ ps,
      ReadsPart read (room - 1) (Json.write sp (level + 1) (enc p.2)) (enc p.2).nesting p.2) :
    ReadsPart (readMap room read) room
      (Json.write sp level (.object (ps.map fun p => (p.1, enc p.2))))
      (Value.object (ps.map fun p => (p.1, enc p.2))).nesting ps := by
  rw [Json.write_object]
  refine ⟨⟨_, _, rfl, by decide, by decide, by decide⟩, fun rest _ => ?_⟩
  rw [List.cons_append, readMap, skipSpace_cons (by decide)]
  simp only [List.append_assoc, List.singleton_append]
  cases room with
  | zero => exact .tooDeep (Nat.succ_pos _) rfl
  | succ room =>
      rw [if_neg (Nat.succ_ne_zero room)]
      refine (within_readPairs hsp hread h (Json.isGap_closingGap hsp level _) rest true ?_).opened
      simp only [List.length_append, List.length_cons]
      omega

end Containers

/-! ### Fields -/

/-- A field is known by its key. -/
theorem Field.ofKey?_key (field : Field) : Field.ofKey? field.key = some field := by
  cases field <;> rfl

/-- How the schemas are read that stand inside the fields of a schema. -/
def innerOf (room : Nat) : Inner := ⟨read room, read (room - 1)⟩

/-- A schema is read behind its opening bracket with room for one container less. -/
theorem read_succ (room : Nat) (cs : List Char) :
    read (room + 1) cs = readWith (readInside room (innerOf room)) cs := by
  cases room <;> rfl

/-- White space before a schema is skipped. -/
theorem read_gap (room : Nat) (gap cs : List Char) (hgap : IsGap gap) :
    read room (gap ++ cs) = read room cs := by
  cases room with
  | zero => simp only [read, readWith, skipSpace_append hgap]
  | succ room => simp only [read_succ, readWith, skipSpace_append hgap]

/-- White space before the value of a field is skipped. -/
theorem readField_gap (room : Nat) (inner : Inner) (enclosure : Enclosure) (field : Field)
    (s : Schema) (gap cs : List Char) (hgap : IsGap gap) :
    readField room inner enclosure field s (gap ++ cs) =
      readField room inner enclosure field s cs := by
  cases field <;> simp only [readField, readOptional, skipSpace_append hgap]

/-- The members for fields with their values. -/
def fieldMembers (es : List (Field × Value)) : Members := es.map fun e => (e.1.key, e.2)

/-- A schema is filled with some fields one after another, each of which is read. -/
inductive Fills (sp : Spacing) (level room : Nat) : Schema → List (Field × Value) → Schema → Prop
  /-- There is no field. -/
  | nil (s : Schema) : Fills sp level room s [] s
  /-- There is a field before the others. -/
  | cons {s t u : Schema} {field : Field} {v : Value} {es : List (Field × Value)}
      (hfield : ReadsPart (readField room (innerOf room) .braces field s) room
        (Json.write sp level v) v.nesting t)
      (hes : Fills sp level room t es u) : Fills sp level room s ((field, v) :: es) u

/-- A field is filled by a rule: it is read as a part that may be missing, and put in its place. -/
theorem Fills.rule {sp : Spacing} {level : Nat} {s u : Schema} {field : Field} {v : Value}
    {es : List (Field × Value)} {part : List Char → Except LoadFault (α × List Char)}
    (put : Option α → Schema)
    (hrule : readField room (innerOf room) .braces field s =
      fun cs => (readOptional part cs).map fun (a, rest) => (put a, rest))
    {a : α} (h : ReadsPart part room (Json.write sp level v) v.nesting a)
    (hes : Fills sp level room (put (some a)) es u) : Fills sp level room s ((field, v) :: es) u := by
  refine .cons ?_ hes
  rw [hrule]
  exact h.optional.andThen put

/-- Fields and then others. -/
theorem Fills.append {sp : Spacing} {level : Nat} {s t u : Schema} {es es' : List (Field × Value)}
    (h : Fills sp level room s es t) (h' : Fills sp level room t es' u) :
    Fills sp level room s (es ++ es') u := by
  induction h with
  | nil => exact h'
  | cons hfield _ ih => exact .cons hfield (ih h')

section Schemas

variable {sp : Spacing} (hsp : sp.IsWhite)

include hsp

/-- **Different fields are read**, up to the closing brace, or the first that is too deep is
refused. -/
theorem Fills.within_readFields {level : Nat} {s t : Schema} {es : List (Field × Value)}
    (h : Fills sp level room s es t) {seen : List Field}
    (hnew : (seen ++ es.map (·.1)).Nodup) {gap : List Char} (hgap : IsGap gap) (rest : List Char)
    (first : Bool) {fuel : Nat}
    (hfuel : (membersText sp level first (fieldMembers es)).length < fuel) :
    Within IsTooDeep room (t, rest) (nestingMembers (fieldMembers es))
      (readFields room (innerOf room) fuel first seen s
        (membersText sp level first (fieldMembers es) ++ (gap ++ '}' :: rest))) := by
  induction h generalizing seen fuel first with
  | nil s =>
      obtain ⟨n, rfl⟩ := Nat.exists_eq_add_of_le' hfuel
      have hclose : readFields room (innerOf room) (n + 1) first seen s (gap ++ '}' :: rest) =
          .ok (s, rest) := by
        rw [readFields, continueMembers_close hgap]
      exact hclose ▸ .fits (Nat.zero_le room)
  | @cons s t u field v es hfield hes ih =>
      have hmembers : fieldMembers ((field, v) :: es) = (field.key, v) :: fieldMembers es := rfl
      simp only [hmembers, membersText, List.length_append, List.length_cons] at hfuel
      obtain ⟨n, rfl⟩ : ∃ n, fuel = n + 1 := ⟨fuel - 1, by omega⟩
      have hrest : ((field :: seen) ++ es.map (·.1)).Nodup :=
        List.perm_middle.nodup_iff.mp hnew
      have hseen : seen.contains field = false := by
        rw [List.cons_append, List.nodup_cons, List.mem_append, not_or] at hrest
        simpa using hrest.1.1
      have hread := hfield.within _
        (Json.endsNumeral_membersText sp level (fieldMembers es) hgap rest)
      have hfurther : (membersText sp level false (fieldMembers es)).length < n := by omega
      have hothers := ih hrest false hfurther
      have hcons : readFields room (innerOf room) (n + 1) first seen s
          (membersText sp level first (fieldMembers ((field, v) :: es)) ++ (gap ++ '}' :: rest)) =
            (readField room (innerOf room) .braces field s (Json.write sp level v ++
              (membersText sp level false (fieldMembers es) ++ (gap ++ '}' :: rest)))).bind
              fun p => readFields room (innerOf room) n false (field :: seen) p.1 p.2 := by
        simp only [hmembers, membersText, List.append_assoc, List.cons_append]
        rw [readFields, continueMembers_separator (hsp.lineBreak level)]
        simp only [Json.readString_escaped, lift, Except.mapError, Field.ofKey?_key, hseen,
          Bool.false_eq_true, if_false, readColon_cons]
        rw [readField_gap _ _ _ _ _ _ _ hsp.afterColon]
        cases readField room (innerOf room) .braces field s (Json.write sp level v ++
          (membersText sp level false (fieldMembers es) ++ (gap ++ '}' :: rest))) <;> rfl
      rw [hcons]
      exact hread.bind hothers

/-- **A schema is read** if its fields are, with room for one container less. -/
theorem readsPart_of_fills {level : Nat} {s : Schema} {es : List (Field × Value)}
    (hvalue : s.toValue = .object (fieldMembers es)) (hnew : (es.map (·.1)).Nodup)
    (h : ∀ room, Fills sp (level + 1) room {} es s) (room : Nat) :
    ReadsPart (read room) room (Json.write sp level s.toValue) s.toValue.nesting s := by
  rw [hvalue, Json.write_object]
  refine ⟨⟨_, _, rfl, by decide, by decide, by decide⟩, fun rest _ => ?_⟩
  simp only [List.cons_append, List.append_assoc, List.nil_append]
  cases room with
  | zero =>
      rw [read, readWith, skipSpace_cons (by decide)]
      exact .tooDeep (Nat.succ_pos _) rfl
  | succ room =>
      rw [read_succ, readWith, skipSpace_cons (by decide)]
      refine ((h room).within_readFields hsp hnew (Json.isGap_closingGap hsp level _) rest true
        ?_).opened
      simp only [List.length_append, List.length_cons]
      omega

end Schemas

end JsonWorkbench.Schema
