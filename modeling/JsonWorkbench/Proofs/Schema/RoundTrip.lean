import JsonWorkbench.Proofs.Inference
import JsonWorkbench.Proofs.Schema.Reader

/-!
# Inferred Schemas Are Loaded Back

The schema of a document, with a dialect and a title, is written as a JSON document and loaded
again. What is loaded is the schema that was written, as long as its text is not nested too deep
for a JSON reader. A schema is nested deeper than the document that it describes: an object inside
an object opens two containers in the schema, since its own schema is a member of the properties,
and an array of arrays with different items opens three. A document that is itself read may
therefore have a schema whose text is refused; `load_describing` says exactly when.

## Main definitions

* `headed` — a schema with a dialect and a title.
* `LoadsBack` — what comes of loading the text of a schema.

## Main results

* `readsPart_inferred` — an inferred schema is read from its text.
* `load_describing` — the schema of a document is loaded back exactly if its text is not nested too
  deep.
* `nesting_ofProperties` — the schema of an object is two containers around those of its members.
* `not_forall_load_describing` — the schema of a document that is read need not be loaded.
-/

namespace JsonWorkbench.Schema

open Json (IsGap EndsNumeral Spacing)

/-- A schema with a dialect and a title. -/
def headed (dialect title : Option String) (s : Schema) : Schema :=
  { s with rules := { s.rules with dialect, title } }

/-- The fields for a dialect and a title. -/
def headFields (dialect title : Option String) : List (Field × Value) :=
  dialect.toList.map (fun d => (.dialect, .string d)) ++
    title.toList.map (fun t => (.title, .string t))

/-- Inferred schemas have neither a dialect nor a title. -/
theorem Inferred.headed_none {s : Schema} (h : Inferred s) : headed none none s = s := by
  cases h <;> rfl

/-! ### The fields of inferred schemas -/

section Fields

variable {sp : Spacing} {level room : Nat}

/-- A text fills the field that has it. -/
theorem fills_text {s u : Schema} {field : Field} (put : Option String → Schema)
    (hrule : readField room (innerOf room) .braces field s =
      fun cs => (readOptional readText cs).map fun (a, rest) => (put a, rest))
    {text : String} {es : List (Field × Value)}
    (hes : Fills sp level room (put (some text)) es u) :
    Fills sp level room s ((field, .string text) :: es) u :=
  .rule put hrule (readsPart_text sp level room text) hes

/-- The dialect and the title are read. -/
theorem fills_head (dialect title : Option String) :
    Fills sp level room {} (headFields dialect title) (headed dialect title {}) := by
  have htitle (t : String) :
      Fills sp level room (headed dialect none {}) [(.title, .string t)] (headed dialect t {}) :=
    fills_text (fun t => headed dialect t {}) rfl (.nil _)
  cases dialect with
  | none =>
      cases title with
      | none => exact .nil _
      | some t => exact htitle t
  | some d =>
      cases title with
      | none => exact fills_text (fun d => headed d none {}) rfl (.nil _)
      | some t => exact fills_text (fun d => headed d none {}) rfl (htitle t)

/-- **A schema is read behind its dialect and title**, if its other fields are filled. -/
theorem readsPart_headed (hsp : sp.IsWhite) (dialect title : Option String) {s : Schema}
    (es : List (Field × Value))
    (hvalue : (headed dialect title s).toValue =
      .object (fieldMembers (headFields dialect title ++ es)))
    (hnew : (([.dialect, .title] : List Field) ++ es.map (·.1)).Nodup)
    (h : ∀ room, Fills sp (level + 1) room (headed dialect title {}) es (headed dialect title s)) :
    ReadsPart (read room) room (Json.write sp level (headed dialect title s).toValue)
      (headed dialect title s).toValue.nesting (headed dialect title s) := by
  have hsub : List.Sublist ((headFields dialect title ++ es).map (·.1))
      (([.dialect, .title] : List Field) ++ es.map (·.1)) := by
    rw [List.map_append]
    refine List.Sublist.append_right ?_ _
    cases dialect <;> cases title <;> simp [headFields]
  exact readsPart_of_fills hsp hvalue (hnew.sublist hsub)
    (fun room => (fills_head dialect title).append (h room)) room

end Fields

/-! ### Values of schemas -/

/-- The properties as members. -/
theorem propertyValues_eq (ps : List (String × Schema)) :
    propertyValues ps = ps.map fun p => (p.1, p.2.toValue) := by
  induction ps with
  | nil => rfl
  | cons p ps ih => rw [propertyValues, ih, List.map_cons]

/-- The branches as items. -/
theorem schemaValues_eq (ss : List Schema) : schemaValues ss = ss.map toValue := by
  induction ss with
  | nil => rfl
  | cons s ss ih => rw [schemaValues, ih, List.map_cons]

/-- The members for fields, one list after another. -/
theorem fieldMembers_append (es es' : List (Field × Value)) :
    fieldMembers (es ++ es') = fieldMembers es ++ fieldMembers es' := List.map_append

/-- The fields for a rule that may be present. -/
def fieldOf {α : Type} (field : Field) (write : α → Value) (o : Option α) : List (Field × Value) :=
  o.toList.map fun a => (field, write a)

/-- A rule that may be present as a member. -/
theorem member_eq {α : Type} (field : Field) (write : α → Value) (o : Option α) :
    member field.key write o = fieldMembers (fieldOf field write o) := by
  cases o <;> rfl

/-- **The value of a schema** that has none of the rules about sizes and bounds. -/
theorem toValue_headed (dialect title format : Option String) (type : Option TypeSpec)
    (required : Option (List String)) (properties : Option (List (String × Schema)))
    (items : Option Schema) (anyOf : Option (List Schema)) :
    (headed dialect title ⟨{ type, required, format }, properties, items, anyOf⟩).toValue =
      .object (fieldMembers (headFields dialect title ++
        (fieldOf .type TypeSpec.toValue type ++
        (fieldOf .properties (fun ps => .object (ps.map fun p => (p.1, p.2.toValue))) properties ++
        (fieldOf .required textsValue required ++
        (fieldOf .items toValue items ++
        (fieldOf .format .string format ++
        fieldOf .anyOf (fun ss => .array (ss.map toValue)) anyOf))))))) := by
  have hproperties : propertiesMember properties = fieldMembers
      (fieldOf .properties (fun ps => .object (ps.map fun p => (p.1, p.2.toValue))) properties) := by
    cases properties with
    | none => rfl
    | some ps => rw [propertiesMember, propertyValues_eq]; rfl
  have hitems : itemsMember items = fieldMembers (fieldOf .items toValue items) := by
    cases items <;> rw [itemsMember] <;> rfl
  have hbranches : anyOfMember anyOf =
      fieldMembers (fieldOf .anyOf (fun ss => .array (ss.map toValue)) anyOf) := by
    cases anyOf with
    | none => rfl
    | some ss => rw [anyOfMember, schemaValues_eq]; rfl
  have hhead : member "$schema" .string dialect ++ member "title" .string title =
      fieldMembers (headFields dialect title) := by
    cases dialect <;> cases title <;> rfl
  simp only [fieldMembers_append, ← hproperties, ← hitems, ← hbranches, ← hhead, ← member_eq,
    headed, toValue, List.append_assoc, List.append_nil, member]
  rfl

/-! ### Inferred schemas -/

section Inferred

variable {sp : Spacing} (hsp : sp.IsWhite) (dialect title : Option String) (level room : Nat)

include hsp

/-- The schema of a scalar is read. -/
theorem readsPart_ofScalar (t : TypeName) (format : Option String) :
    ReadsPart (read room) room
      (Json.write sp level (headed dialect title (ofScalar t format)).toValue)
      (headed dialect title (ofScalar t format)).toValue.nesting
      (headed dialect title (ofScalar t format)) := by
  refine readsPart_headed hsp dialect title
    ((.type, t.toValue) :: format.toList.map fun f => (.format, .string f)) ?_ ?_ fun room => ?_
  · refine (toValue_headed dialect title format (some (.one t)) none none none none).trans ?_
    simp only [fieldOf, Option.toList_some, Option.toList_none, List.map_cons, List.map_nil,
      List.nil_append, List.singleton_append, TypeSpec.toValue, List.append_nil]
  · cases format <;> simp
  · refine .rule (fun a => headed dialect title { rules := { type := a } }) rfl
      (readsPart_typeName sp (level + 1) room .braces t) ?_
    cases format with
    | none => exact .nil _
    | some f =>
        exact fills_text
          (fun a => headed dialect title { rules := { type := some (.one t), format := a } })
          rfl (.nil _)

/-- The schema of an array is read, if that of its items is. -/
theorem readsPart_ofItems {s : Schema}
    (h : ∀ level room, ReadsPart (read room) room (Json.write sp level s.toValue)
      s.toValue.nesting s) :
    ReadsPart (read room) room (Json.write sp level (headed dialect title (ofItems s)).toValue)
      (headed dialect title (ofItems s)).toValue.nesting (headed dialect title (ofItems s)) := by
  refine readsPart_headed hsp dialect title
    [(.type, TypeName.array.toValue), (.items, s.toValue)] ?_ (by simp) fun room => ?_
  · exact toValue_headed dialect title none (some (.one .array)) none none (some s) none
  · refine .rule (fun a => headed dialect title { rules := { type := a } }) rfl
      (readsPart_typeName sp (level + 1) room .braces .array) ?_
    exact .rule
      (fun a => { headed dialect title { rules := { type := some (.one .array) } } with items := a })
      rfl (h _ _) (.nil _)

/-- The schema of an object is read, if those of its members are. -/
theorem readsPart_ofProperties {ps : List (String × Schema)} (required : List String)
    (hps : (ps.map (·.1)).Nodup)
    (h : ∀ p ∈ ps, ∀ level room, ReadsPart (read room) room (Json.write sp level p.2.toValue)
      p.2.toValue.nesting p.2) :
    ReadsPart (read room) room
      (Json.write sp level (headed dialect title (ofProperties ps required)).toValue)
      (headed dialect title (ofProperties ps required)).toValue.nesting
      (headed dialect title (ofProperties ps required)) := by
  refine readsPart_headed hsp dialect title
    ((.type, TypeName.object.toValue) ::
      (.properties, .object (ps.map fun p => (p.1, p.2.toValue))) ::
      (nonEmpty? required).toList.map fun texts => (.required, textsValue texts)) ?_ ?_ fun room => ?_
  · refine (toValue_headed dialect title none (some (.one .object)) (nonEmpty? required) (some ps)
      none none).trans ?_
    simp only [fieldOf, Option.toList_some, Option.toList_none, List.map_cons, List.map_nil,
      List.singleton_append, TypeSpec.toValue, List.append_nil]
  · cases nonEmpty? required <;> simp
  · refine .rule (fun a => headed dialect title { rules := { type := a } }) rfl
      (readsPart_typeName sp (level + 1) room .braces .object) ?_
    refine .rule (fun a =>
      { headed dialect title { rules := { type := some (.one .object) } } with
        properties := a.map Keyed.ofPairs }) rfl
      (readsPart_map hsp (read_gap (room - 1)) fun p hp => h p hp _ _) ?_
    rw [Option.map_some, Keyed.ofPairs_of_nodup hps]
    have hrequired (texts : Option (List String)) :
        Fills sp (level + 1) room
          { headed dialect title { rules := { type := some (.one .object) } } with
            properties := some ps }
          (texts.toList.map fun texts => (.required, textsValue texts))
          { headed dialect title { rules := { type := some (.one .object), required := texts } } with
            properties := some ps } := by
      cases texts with
      | none => exact .nil _
      | some texts =>
          refine .rule (fun a => { headed dialect title
            { rules := { type := some (.one .object), required := a } } with
            properties := some ps }) rfl (readsPart_list hsp fun text _ => ?_) (.nil _)
          exact readsPart_text sp _ _ text
    exact hrequired (nonEmpty? required)

/-- The schema of different items is read, if every branch is. -/
theorem readsPart_ofBranches {ss : List Schema}
    (h : ∀ s ∈ ss, ∀ level room, ReadsPart (read room) room (Json.write sp level s.toValue)
      s.toValue.nesting s) :
    ReadsPart (read room) room (Json.write sp level (headed dialect title (ofBranches ss)).toValue)
      (headed dialect title (ofBranches ss)).toValue.nesting
      (headed dialect title (ofBranches ss)) := by
  refine readsPart_headed hsp dialect title [(.anyOf, .array (ss.map toValue))] ?_
    (by simp) fun room => ?_
  · exact toValue_headed dialect title none none none none none (some ss)
  · exact .rule (fun a => { headed dialect title {} with anyOf := a }) rfl
      (readsPart_list hsp fun s hs => h s hs _ _) (.nil _)

/-- **An inferred schema is read from its text**, with a dialect and a title or without. -/
theorem readsPart_inferred {s : Schema} (hs : Inferred s) :
    ReadsPart (read room) room (Json.write sp level (headed dialect title s).toValue)
      (headed dialect title s).toValue.nesting (headed dialect title s) := by
  induction hs generalizing dialect title level room with
  | unknown =>
      refine readsPart_headed hsp dialect title [] ?_ (by decide) fun room => .nil _
      exact toValue_headed dialect title none none none none none none
  | scalar _ => exact readsPart_ofScalar hsp dialect title level room _ _
  -- a schema that stands inside has neither a dialect nor a title
  | items hs ih =>
      refine readsPart_ofItems hsp dialect title level room fun level room => ?_
      exact hs.headed_none ▸ ih none none level room
  | properties hps hs ih =>
      refine readsPart_ofProperties hsp dialect title level room _ hps fun p hp level room => ?_
      exact (hs p.1 p.2 hp).headed_none ▸ ih p.1 p.2 hp none none level room
  | branches hs ih =>
      refine readsPart_ofBranches hsp dialect title level room fun s hmem level room => ?_
      exact (hs s hmem).headed_none ▸ ih s hmem none none level room

end Inferred

/-! ### Loading -/

/-- What comes of loading the text of a schema: the schema, unless the text is nested too deep and
refused for that. -/
def LoadsBack (s : Schema) (r : Except LoadError Schema) : Prop :=
  Within (fun e => e.cause = .json .tooDeep) Json.maxNesting s s.toValue.nesting r

/-- A schema is loaded from a text with any white space between its tokens, if it is read. -/
theorem loadsBack_of_readsPart {sp : Spacing} {s : Schema}
    (h : ReadsPart (read Json.maxNesting) Json.maxNesting (Json.write sp 0 s.toValue)
      s.toValue.nesting s) :
    LoadsBack s (load (String.ofList (Json.write sp 0 s.toValue))) := by
  have hread := h.within [] (Text.stops_nil _)
  rw [List.append_nil] at hread
  rw [load, String.toList_ofList, loadChars]
  generalize read Json.maxNesting (Json.write sp 0 s.toValue) = r at hread
  cases hread with
  | fits h => exact .fits h
  | tooDeep h he => exact .tooDeep h he

/-- The schema of a document is that of its value, with a dialect and a title. -/
theorem describing_eq (v : Value) (title : String) :
    describing v title = headed (some dialectUri) (some title) (infer v) := rfl

/-- The schema of a document is loaded from a text with any white space between its tokens. -/
theorem loadsBack_write {sp : Spacing} (hsp : sp.IsWhite) {v : Value} (hv : v.WellFormed)
    (title : String) :
    LoadsBack (describing v title)
      (load (String.ofList (Json.write sp 0 (describing v title).toValue))) := by
  rw [describing_eq]
  exact loadsBack_of_readsPart
    (readsPart_inferred hsp (some dialectUri) (some title) 0 Json.maxNesting (inferred_infer hv))

/-- **The schema of a document is loaded back**, from its compact text and from its text with any
indentation, exactly if it is not nested too deep; otherwise its text is refused for its depth. -/
theorem load_describing {v : Value} (hv : v.WellFormed) (title : String) :
    LoadsBack (describing v title) (load (describing v title).text) ∧
      ∀ indent, LoadsBack (describing v title)
        (load (Json.stringify (describing v title).toValue indent)) :=
  ⟨loadsBack_write Json.isWhite_compact hv title,
    fun indent => loadsBack_write (Json.isWhite_indented indent) hv title⟩

/-- An order with an address, a date, a list of different items and a member without a value. -/
def mixedOrder : Value :=
  .object [("to", .object [("name", .string "a\"b"), ("day", .string "2024-01-02")]),
    ("items", .array [.int 1, .string "x", .array [], .object [("to", .null)]])]

/-- The schema of the order is loaded back. -/
theorem load_describing_mixedOrder :
    mixedOrder.WellFormed ∧
      load (describing mixedOrder "order").text = .ok (describing mixedOrder "order") := by
  have hv : mixedOrder.WellFormed := by decide
  have hnesting : (describing mixedOrder "order").toValue.nesting ≤ Json.maxNesting := by
    decide +kernel
  exact ⟨hv, (load_describing hv "order").1.eq_ok_iff.mpr hnesting⟩

/-! ### Documents whose schemas are too deep -/

/-- Objects inside one another, with some of them around the innermost. -/
def objectsInside : Nat → Value
  | 0 => .object []
  | n + 1 => .object [("a", objectsInside n)]

/-- Each object is a container. -/
theorem nesting_objectsInside (n : Nat) : (objectsInside n).nesting = n + 1 := by
  induction n with
  | zero => rfl
  | succ n ih =>
      rw [objectsInside, Value.nesting, Value.nestingMembers, Value.nestingMembers, ih,
        Nat.max_zero]

/-- Objects inside one another have distinct keys. -/
theorem wellFormed_objectsInside (n : Nat) : (objectsInside n).WellFormed := by
  induction n with
  | zero => simp [objectsInside, Value.WellFormed, Value.WellFormedMembers, Members.keys]
  | succ n ih => simp [objectsInside, Value.WellFormed, Value.WellFormedMembers, Members.keys, ih]

/-- Objects inside one another have no numbers. -/
theorem isIntegral_objectsInside (n : Nat) : (objectsInside n).IsIntegral := by
  induction n with
  | zero => simp [objectsInside, Value.IsIntegral, Value.MembersAreIntegral]
  | succ n ih => simp [objectsInside, Value.IsIntegral, Value.MembersAreIntegral, ih]

/-- Members and then others are nested as deep as the deeper of them. -/
theorem nestingMembers_append (ms ms' : Members) :
    Value.nestingMembers (ms ++ ms') =
      max (Value.nestingMembers ms) (Value.nestingMembers ms') := by
  induction ms with
  | nil => exact (Nat.zero_max _).symm
  | cons m ms ih =>
      rw [List.cons_append, Value.nestingMembers, ih, Value.nestingMembers, Nat.max_assoc]

/-- A list of texts is one container. -/
theorem nesting_textsValue (texts : List String) : (textsValue texts).nesting = 1 := by
  have hitems : Value.nestingItems (texts.map .string) ≤ 0 := by
    rw [Value.nestingItems_le_iff, List.forall_mem_map]
    exact fun text _ => Nat.le_refl 0
  rw [textsValue, Value.nesting, Nat.le_zero.mp hitems]

/-- **The schema of an object is two containers** around those of its members: itself and the
object that holds its properties. -/
theorem nesting_ofProperties (dialect title : Option String) (ps : List (String × Schema))
    (required : List String) :
    (headed dialect title (ofProperties ps required)).toValue.nesting =
      Value.nestingMembers (ps.map fun p => (p.1, p.2.toValue)) + 2 := by
  have hhead : Value.nestingMembers (fieldMembers (headFields dialect title)) = 0 := by
    cases dialect <;> cases title <;> rfl
  have hrequired : Value.nestingMembers
      (fieldMembers (fieldOf .required textsValue (nonEmpty? required))) ≤ 1 := by
    cases nonEmpty? required with
    | none => exact Nat.zero_le 1
    | some texts => exact Nat.max_le.mpr ⟨Nat.le_of_eq (nesting_textsValue texts), Nat.zero_le 1⟩
  have hvalue := toValue_headed dialect title none (some (.one .object)) (nonEmpty? required)
    (some ps) none none
  refine (congrArg Value.nesting hvalue).trans ?_
  simp only [fieldMembers_append, nestingMembers_append, hhead, Value.nesting]
  simp only [fieldOf, fieldMembers, Option.toList, List.map_cons, List.map_nil,
    Value.nestingMembers, TypeSpec.toValue, TypeName.toValue, Value.nesting] at hrequired ⊢
  omega

/-- Each object is two containers in the schema. -/
theorem nesting_infer_objectsInside (n : Nat) (dialect title : Option String) :
    (headed dialect title (infer (objectsInside n))).toValue.nesting = 2 * (n + 1) := by
  induction n generalizing dialect title with
  | zero => exact nesting_ofProperties dialect title [] []
  | succ n ih =>
      have hinfer : infer (objectsInside (n + 1)) =
          ofProperties [("a", infer (objectsInside n))] ["a"] := by
        cases n <;> rfl
      have hinner : (infer (objectsInside n)).toValue.nesting = 2 * (n + 1) := by
        rw [← (inferred_infer (wellFormed_objectsInside n)).headed_none]
        exact ih none none
      rw [hinfer, nesting_ofProperties, List.map_singleton, Value.nestingMembers,
        Value.nestingMembers, hinner]
      omega

/-- A document that is read need not have a schema that is loaded back. -/
theorem not_forall_load_describing :
    ¬∀ (text : String) (v : Value) (title : String), Json.parse text = .ok v →
      load (describing v title).text = .ok (describing v title) := by
  intro h
  have hparse : Json.parse (Json.minify (objectsInside 63)) = .ok (objectsInside 63) :=
    Json.parse_write Json.isWhite_compact (wellFormed_objectsInside 63)
      (isIntegral_objectsInside 63) (by rw [nesting_objectsInside]; decide)
  have hload := (loadsBack_write Json.isWhite_compact (wellFormed_objectsInside 63) "").eq_ok_iff.mp
    (h _ _ "" hparse)
  rw [describing_eq, nesting_infer_objectsInside] at hload
  exact absurd hload (by decide)

end JsonWorkbench.Schema
