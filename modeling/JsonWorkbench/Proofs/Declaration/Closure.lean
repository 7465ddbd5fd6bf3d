import JsonWorkbench.Declaration.Printer
import JsonWorkbench.Proofs.Declaration.Identifier
import JsonWorkbench.Proofs.Keyed
import JsonWorkbench.Proofs.Value

/-!
# Declarations That Refer to Each Other

The walk over a document hands out the name of a type before the text is complete: a declaration
is put into the registry only when all that is inside of the object has been walked over, and it
may take the place of another one then. What the walk keeps up at every step is that the
registry is closed (`Registry.Closed`): a type of a field is made of the types of the language and
of names that the registry has. A step adds names and loses none, so what was closed before
stays so (`Registry.Grows`), whichever names the objects share.

In the text a name is declared by the line that a declaration begins with. The character behind
the name there is not in any name, so the line tells which name is declared.

## Main definitions

* `IsTypeText` — the texts of types over declared names.
* `Registry.Closed` — declarations that refer to each other only.
* `Language.declares` — a text begins as the declaration of a name.

## Main results

* `grows_inferType` — what the walk over a value makes of the declarations.
* `generateTypes_closed` — no type is missing from the text, and none is declared twice.
-/

namespace JsonWorkbench

/-! ### Texts of types -/

/-- The texts of the types that can be written with the types of a language, its lists and its
choices over some declared names. -/
inductive IsTypeText (l : Language) (names : List String) : String → Prop where
  /-- A type of the language. -/
  | basic (b : BasicType) : IsTypeText l names (b.text l)
  /-- A list of which no item is known. -/
  | unknownList : IsTypeText l names (unknownListText l)
  /-- A list. -/
  | list {item : String} (h : IsTypeText l names item) : IsTypeText l names (listText item l)
  /-- A choice between types with different texts, in a language that has choices. -/
  | union {texts : List String} (hunions : l.hasUnions = true) (hcount : 2 ≤ texts.length)
      (hnodup : texts.Nodup) (h : ∀ t ∈ texts, IsTypeText l names t) :
      IsTypeText l names ("(" ++ " | ".intercalate texts ++ ")")
  /-- A declared name. -/
  | declared {name : String} (h : name ∈ names) : IsTypeText l names name

variable {l : Language}

/-- A text stays one of a type when names are added. -/
theorem IsTypeText.mono {names names' : List String} (hsub : names ⊆ names') {text : String}
    (h : IsTypeText l names text) : IsTypeText l names' text := by
  induction h with
  | basic b => exact .basic b
  | unknownList => exact .unknownList
  | list _ ih => exact .list ih
  | union hunions hcount hnodup _ ih => exact .union hunions hcount hnodup ih
  | declared hname => exact .declared (hsub hname)

/-- The texts of types, one by one. -/
theorem textsOf_eq_map (l : Language) (types : List TypeExpr) :
    textsOf l types = types.map (·.text l) := by
  induction types with
  | nil => rfl
  | cons t ts ih => rw [textsOf, ih, List.map_cons]

/-- Of types with one text the first is left. -/
theorem distinctTypes_sublist (l : Language) (kept types : List TypeExpr) :
    (distinctTypes l kept types).Sublist (kept ++ types) := by
  induction types generalizing kept with
  | nil => rw [distinctTypes, List.append_nil]
  | cons t ts ih =>
      rw [distinctTypes]
      split
      · exact (ih kept).trans ((List.sublist_cons_self t ts).append_left kept)
      · simpa using ih (kept ++ [t])

/-- The types that are left have different texts. -/
theorem nodup_distinctTypes {kept : List TypeExpr} (h : (kept.map (·.text l)).Nodup)
    (types : List TypeExpr) : ((distinctTypes l kept types).map (·.text l)).Nodup := by
  induction types generalizing kept with
  | nil => exact h
  | cons t ts ih =>
      rw [distinctTypes]
      split
      · exact ih h
      · next hnew =>
          refine ih ?_
          rw [List.map_append, List.map_singleton, List.nodup_append_comm, List.singleton_append,
            List.nodup_cons]
          refine ⟨?_, h⟩
          simpa using hnew

/-- The type of a list with items of some types; a language without choices looks at one item. -/
theorem isTypeText_listType {names : List String} {types : List TypeExpr}
    (h : ∀ t ∈ types, IsTypeText l names (t.text l))
    (hcount : types.length ≤ l.sampleSize) : IsTypeText l names ((listType l types).text l) := by
  have hsub := distinctTypes_sublist l [] types
  have hnodup := @nodup_distinctTypes l [] List.nodup_nil types
  rw [List.nil_append] at hsub
  rw [listType]
  split
  · exact .unknownList
  · next t hone =>
      exact .list (h t (hsub.subset (hone ▸ List.mem_singleton_self t)))
  · next hnil hone =>
      generalize distinctTypes l [] types = ts at *
      have htwo : 2 ≤ ts.length := by
        match ts with
        | [] => exact absurd rfl hnil
        | [t] => exact absurd rfl (hone t)
        | _ :: _ :: _ => simp
      have hunions : l.hasUnions = true := by
        have hle := hsub.length_le
        rw [Language.sampleSize] at hcount
        split at hcount
        · assumption
        · omega
      rw [TypeExpr.text, TypeExpr.text, textsOf_eq_map]
      refine .list (.union hunions (by simpa using htwo) hnodup fun text htext => ?_)
      obtain ⟨t, ht, rfl⟩ := List.mem_map.mp htext
      exact h t (hsub.subset ht)

/-! ### Closed declarations -/

/-- The names that are declared. -/
def Registry.names (r : Registry) : List String := r.map (·.1)

/-- No name is declared twice, each is made from a key or a given name, and the types of all fields
are types over these names. -/
structure Registry.Closed (l : Language) (r : Registry) : Prop where
  /-- No name is declared twice. -/
  nodup : r.names.Nodup
  /-- Names are made of words. -/
  named : ∀ name ∈ r.names, ∃ key, name = pascalCase key
  /-- Fields refer to what is declared. -/
  typed : ∀ name fields, (name, fields) ∈ r → ∀ f ∈ fields, IsTypeText l r.names (f.type.text l)

/-- A part of the walk that finds some types: the declarations stay closed, none is lost, and the
types refer to what is declared now. -/
structure Registry.Grows (l : Language) (r r' : Registry) (types : List TypeExpr) : Prop where
  /-- The declarations after it are closed. -/
  closed : r'.Closed l
  /-- No name is lost. -/
  kept : r.names ⊆ r'.names
  /-- The types refer to what is declared. -/
  typed : ∀ t ∈ types, IsTypeText l r'.names (t.text l)

namespace Registry

variable {r r' r'' : Registry} {types types' : List TypeExpr}

/-- Nothing is declared at first. -/
theorem closed_nil (l : Language) : Closed l [] where
  nodup := List.nodup_nil
  named := by simp [names]
  typed := by simp

/-- Nothing is found on the way. -/
theorem Closed.grows_nil (h : Closed l r) : Grows l r r [] where
  closed := h
  kept := List.Subset.refl _
  typed := by simp

/-- A type of the language is found. -/
theorem Closed.grows_basic (h : Closed l r) (b : BasicType) : Grows l r r [.basic b] where
  closed := h
  kept := List.Subset.refl _
  typed := by
    rw [List.forall_mem_singleton, TypeExpr.text]
    exact .basic b

/-- One part of the walk and then another one: what the first found stays declared. -/
theorem Grows.append (h : Grows l r r' types) (h' : Grows l r' r'' types') :
    Grows l r r'' (types ++ types') where
  closed := h'.closed
  kept := List.Subset.trans h.kept h'.kept
  typed t ht := by
    rcases List.mem_append.mp ht with ht | ht
    · exact (h.typed t ht).mono h'.kept
    · exact h'.typed t ht

/-- **A declaration** for a walk over the members of an object: whether it comes last or takes the
place of another one, its fields refer to what is declared. -/
theorem Grows.declare {fields : List Declaration.Field} (key : String)
    (h : Grows l r r' (fields.map (·.type))) :
    Grows l r (Keyed.insert r' (pascalCase key) fields) [.declared (pascalCase key)] := by
  have hnames : ∀ name, name ∈ names (Keyed.insert r' (pascalCase key) fields) ↔
      name ∈ r'.names ∨ name = pascalCase key := fun _ => Keyed.mem_keys_insert
  have hkept : r'.names ⊆ names (Keyed.insert r' (pascalCase key) fields) :=
    fun name hname => (hnames name).mpr (.inl hname)
  refine ⟨⟨Keyed.nodup_insert h.closed.nodup _ _, ?_, ?_⟩, List.Subset.trans h.kept hkept, ?_⟩
  · intro name hname
    rcases (hnames name).mp hname with hold | rfl
    · exact h.closed.named name hold
    · exact ⟨key, rfl⟩
  · intro name fields' hmem f hf
    rcases Keyed.mem_of_mem_insert hmem with heq | hold
    · obtain ⟨rfl, rfl⟩ := Prod.mk.inj heq
      exact (h.typed f.type (List.mem_map_of_mem hf)).mono hkept
    · exact (h.closed.typed name fields' hold f hf).mono hkept
  · rw [List.forall_mem_singleton, TypeExpr.text]
    exact .declared ((hnames _).mpr (.inr rfl))

end Registry

/-! ### The walk -/

/-- The walk over a value keeps the declarations closed. -/
def KeepsClosed (l : Language) (v : Value) : Prop :=
  ∀ name r, Registry.Closed l r →
    Registry.Grows l r (inferType l name v r).2 [(inferType l name v r).1]

/-- Not more types are found than items are looked at. -/
theorem length_inferItemTypes_le (l : Language) (name : String) (count : Nat) (vs : List Value)
    (r : Registry) : (inferItemTypes l name count vs r).1.length ≤ count := by
  induction vs generalizing count r with
  | nil => exact Nat.zero_le _
  | cons v vs ih =>
      cases count with
      | zero => exact Nat.le_refl 0
      | succ count => exact Nat.succ_le_succ (ih count _)

/-- The walk over the first items of a list. -/
theorem grows_inferItemTypes {vs : List Value} (h : ∀ v ∈ vs, KeepsClosed l v) (name : String)
    (count : Nat) {r : Registry} (hr : r.Closed l) :
    Registry.Grows l r (inferItemTypes l name count vs r).2
      (inferItemTypes l name count vs r).1 := by
  induction vs generalizing count r with
  | nil => exact hr.grows_nil
  | cons v vs ih =>
      cases count with
      | zero => exact hr.grows_nil
      | succ count =>
          rw [List.forall_mem_cons] at h
          have hfirst := h.1 name r hr
          exact hfirst.append (ih h.2 count hfirst.closed)

/-- The walk over members. -/
theorem grows_inferFields {ms : Members} (h : ∀ k v, (k, v) ∈ ms → KeepsClosed l v)
    {r : Registry} (hr : r.Closed l) :
    Registry.Grows l r (inferFields l ms r).2 ((inferFields l ms r).1.map (·.type)) := by
  induction ms generalizing r with
  | nil => exact hr.grows_nil
  | cons m ms ih =>
      obtain ⟨k, v⟩ := m
      rw [Keyed.forall_mem_cons] at h
      have hfirst := h.1 k r hr
      exact hfirst.append (ih h.2 hfirst.closed)

/-- **The walk over a value** keeps the declarations closed, and the type that it finds refers to
what is declared. -/
theorem grows_inferType (l : Language) (v : Value) : KeepsClosed l v := by
  induction v using Value.induct with
  | null => exact fun _ _ hr => hr.grows_basic .null
  | bool _ => exact fun _ _ hr => hr.grows_basic .boolean
  | number n => exact fun _ _ hr => hr.grows_basic _
  | string _ => exact fun _ _ hr => hr.grows_basic .string
  | array vs ih =>
      intro name r hr
      have hitems := grows_inferItemTypes ih (name ++ "Item") l.sampleSize hr
      have hlist := isTypeText_listType hitems.typed
        (length_inferItemTypes_le l (name ++ "Item") l.sampleSize vs r)
      exact ⟨hitems.closed, hitems.kept, by rwa [List.forall_mem_singleton, inferType]⟩
  | object ms ih =>
      intro name r hr
      by_cases hhas : Keyed.has r (pascalCase name) = true
      · rw [inferType, if_pos hhas]
        refine ⟨hr, List.Subset.refl _, ?_⟩
        rw [List.forall_mem_singleton, TypeExpr.text]
        exact .declared (Keyed.has_iff.mp hhas)
      · rw [inferType, if_neg hhas]
        exact (grows_inferFields ih hr).declare name

/-- The declarations of a document are closed. -/
theorem closed_declarations (l : Language) (rootName : String) (v : Value) :
    (declarations l rootName v).Closed l :=
  (grows_inferType l v rootName [] (Registry.closed_nil l)).closed

/-! ### The text of declarations -/

namespace Language

/-- What stands before the name where it is declared. -/
def beforeName (o : DeclarationOptions) : Language → String
  | .typeScript => (if o.isExported then "export " else "") ++ "interface "
  | .go => "type "
  | .python => "@dataclass\nclass "
  | .rust => "#[derive(Debug, Clone, Serialize, Deserialize)]\npub struct "

/-- What stands behind the name where it is declared. -/
def behindName : Language → String
  | .typeScript => " \x7b\n"
  | .go => " struct \x7b\n"
  | .python => ":\n"
  | .rust => " \x7b\n"

/-- What the declaration of a name begins with. -/
def heading (l : Language) (o : DeclarationOptions) (name : String) : String :=
  l.beforeName o ++ name ++ l.behindName

/-- The text begins as the declaration of a name. -/
def declares (l : Language) (o : DeclarationOptions) (name text : String) : Bool :=
  (l.heading o name).toList.isPrefixOf text.toList

/-- The character behind a name is not in any name. -/
theorem exists_behindName (l : Language) :
    ∃ stop rest, l.behindName.toList = stop :: rest ∧ ¬IsNameChar stop := by
  cases l with
  | typeScript | go | rust => exact ⟨' ', _, rfl, by decide⟩
  | python => exact ⟨':', _, rfl, by decide⟩

end Language

/-- A declaration begins as that of its name. -/
theorem exists_renderDeclaration (l : Language) (o : DeclarationOptions) (name : String)
    (fields : List Declaration.Field) :
    ∃ body, renderDeclaration l o name fields = l.heading o name ++ body := by
  cases l with
  | typeScript => exact ⟨renderFields .typeScript fields ++ "\x7d", String.append_assoc ..⟩
  | go => exact ⟨renderFields .go fields ++ "\x7d", String.append_assoc ..⟩
  | python => exact ⟨renderClassBody fields, rfl⟩
  | rust => exact ⟨renderFields .rust fields ++ "\x7d", String.append_assoc ..⟩

/-- A declaration declares no other name than its own. -/
theorem declares_renderDeclaration (l : Language) (o : DeclarationOptions) (key key' : String)
    (fields : List Declaration.Field) :
    l.declares o (pascalCase key) (renderDeclaration l o (pascalCase key') fields) =
      (pascalCase key' == pascalCase key) := by
  obtain ⟨body, hbody⟩ := exists_renderDeclaration l o (pascalCase key') fields
  obtain ⟨stop, rest, hbehind, hstop⟩ := l.exists_behindName
  have hfree : ∀ k, stop ∉ (pascalCase k).toList := fun k hmem =>
    hstop (isNameChar_of_mem_pascalCase hmem)
  rw [Bool.eq_iff_iff, beq_iff_eq, Language.declares, List.isPrefixOf_iff_prefix, hbody]
  constructor
  · rintro ⟨more, hmore⟩
    simp only [Language.heading, String.toList_append, hbehind, List.append_assoc,
      List.append_cancel_left_eq, List.cons_append] at hmore
    exact String.toList_inj.mp
      (Text.append_cons_inj (hfree key) (hfree key') hmore).1.symm
  · intro heq
    rw [heq, String.toList_append]
    exact List.prefix_append _ _

/-- Declarations of different names declare each of them once. -/
theorem countP_declares {r : Registry} (hr : r.Closed l) (o : DeclarationOptions) {name : String}
    (hname : name ∈ r.names) :
    (r.map fun (name, fields) => renderDeclaration l o name fields).countP (l.declares o name) =
      1 := by
  obtain ⟨key, rfl⟩ := hr.named name hname
  rw [List.countP_map, ← List.count_eq_one_of_mem hr.nodup hname, List.count, Registry.names,
    List.countP_map]
  refine List.countP_congr fun (name, fields) hp => ?_
  obtain ⟨key', rfl⟩ := hr.named name (List.mem_map_of_mem hp)
  rw [Function.comp_apply, declares_renderDeclaration, Function.comp_apply]

/-- **No type is missing and none is repeated.** Whatever a document, its language and its name are:
its type and the types of all fields are written with the types, lists and choices of the language
over the declared names, and every declared name is declared by exactly one of the declarations that
the text consists of. -/
theorem generateTypes_closed (l : Language) (o : DeclarationOptions) (v : Value) :
    let r := declarations l o.rootName v
    let texts := r.map fun (name, fields) => renderDeclaration l o name fields
    generateTypes l o v = l.header o ++ l.gap.intercalate texts ∧
      IsTypeText l r.names ((inferType l o.rootName v []).1.text l) ∧
      (∀ name fields, (name, fields) ∈ r → ∀ f ∈ fields,
        IsTypeText l r.names (f.type.text l)) ∧
      r.names.Nodup ∧ ∀ name ∈ r.names, texts.countP (l.declares o name) = 1 := by
  have hgrows := grows_inferType l v o.rootName [] (Registry.closed_nil l)
  exact ⟨rfl, hgrows.typed _ (List.mem_singleton_self _), hgrows.closed.typed, hgrows.closed.nodup,
    fun _ hname => countP_declares hgrows.closed o hname⟩

/-- A document with an object inside of one of its own name, and a list of different items. -/
def nestedNames : Value :=
  .object [("x", .object [("v", .null),
    ("x", .object [("w", .array [.int 1, .string "a", .object [("v", .int 2)]])])])]

/-- The outer of the two objects takes the place of the inner one. It refers to itself then, and
nothing refers to the list any more. -/
theorem generateTypes_closed_nestedNames :
    let r := declarations .typeScript "Root" nestedNames
    IsTypeText .typeScript r.names "X" ∧
      (r.map fun (name, fields) => renderDeclaration .typeScript {} name fields).countP
        (Language.declares .typeScript {} "X") = 1 := by
  have hr : declarations .typeScript "Root" nestedNames =
      [("WItem", [⟨"v", .basic .integer, false⟩]),
        ("X", [⟨"v", .basic .null, true⟩, ⟨"x", .declared "X", false⟩]),
        ("Root", [⟨"x", .declared "X", false⟩])] := by rfl
  obtain ⟨-, -, htyped, -, honce⟩ := generateTypes_closed .typeScript {} nestedNames
  refine ⟨htyped "X" [⟨"v", .basic .null, true⟩, ⟨"x", .declared "X", false⟩] ?_
    ⟨"x", .declared "X", false⟩ (by simp), honce "X" ?_⟩
  · simp [hr]
  · simp [hr, Registry.names]

end JsonWorkbench
