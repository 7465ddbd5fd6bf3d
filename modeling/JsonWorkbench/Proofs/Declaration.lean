import JsonWorkbench.Declaration.Inference
import JsonWorkbench.Proofs.Value

/-!
# What Is Declared

Declarations have names, and objects get them from the keys that they stand under; so many objects
can share one declaration. The walk comes to an object with the declarations so far. If its name is
among them, it goes by without looking at the members. Otherwise it goes through the members
first, may declare the name for an object inside of this one on the way, and then declares it
for this one in the place of that. Either way a name that is declared at the end has the fields of
the first object that the walk has come to under it.

The visits of the walk are listed by a recursion of the same shape (`visits`), which takes the
declarations so far from the walk itself.

## Main definitions

* `Visit`, `visits` — the objects that the walk comes to, in order, with the declarations so far.
* `declaredKeys`, `firstKeys` — the keys of a declaration, and of the first object under a name.

## Main results

* `declaredKeys_inferType` — the declarations after a walk, name by name.
* `declarations_visited` — the fields of the declaration that an object is given.
-/

namespace JsonWorkbench

/-! ### Visits -/

/-- An object that the walk comes to. -/
structure Visit where
  /-- The key or the name that it stands under. -/
  name : String
  /-- Its members. -/
  members : Members
  /-- The declarations so far. -/
  declared : Registry

/-- The text of the type that the walk gives an object. -/
def Visit.typeText (l : Language) (o : Visit) : String :=
  (inferType l o.name (.object o.members) o.declared).1.text l

mutual

/-- The objects that the walk over a value comes to, in order. It does not enter an object whose
name is declared. -/
def visits (l : Language) (name : String) : Value → Registry → List Visit
  | .array vs, r => itemVisits l (name ++ "Item") l.sampleSize vs r
  | .object ms, r =>
    { name, members := ms, declared := r } ::
      if Keyed.has r (pascalCase name) then [] else memberVisits l ms r
  | _, _ => []
termination_by structural v => v

/-- The objects that the walk over the first items of a list comes to. -/
def itemVisits (l : Language) (name : String) (count : Nat) : List Value → Registry → List Visit
  | [], _ => []
  | v :: vs, r =>
    match count with
    | 0 => []
    | count + 1 => visits l name v r ++ itemVisits l name count vs (inferType l name v r).2
termination_by structural vs => vs

/-- The objects that the walk over members comes to. -/
def memberVisits (l : Language) : List (String × Value) → Registry → List Visit
  | [], _ => []
  | (k, v) :: ms, r => visits l k v r ++ memberVisits l ms (inferType l k v r).2
termination_by structural ms => ms

end

/-! ### One object -/

section Objects

variable {l : Language} {name : String} {ms : Members} {r : Registry}

/-- A name that is declared is not declared again. -/
theorem inferType_of_has (h : Keyed.has r (pascalCase name) = true) :
    inferType l name (.object ms) r = (.declared (pascalCase name), r) := by
  rw [inferType, if_pos h]

/-- A name that is not declared is declared behind those inside of the object, or in the place of
one of them. -/
theorem inferType_of_not_has (h : ¬Keyed.has r (pascalCase name) = true) :
    inferType l name (.object ms) r =
      (.declared (pascalCase name),
        Keyed.insert (inferFields l ms r).2 (pascalCase name) (inferFields l ms r).1) := by
  rw [inferType, if_neg h]

/-- An object has the type that its name declares. -/
theorem Visit.typeText_eq (l : Language) (o : Visit) : o.typeText l = pascalCase o.name := by
  rw [Visit.typeText]
  by_cases h : Keyed.has o.declared (pascalCase o.name) = true
  · rw [inferType_of_has h, TypeExpr.text]
  · rw [inferType_of_not_has h, TypeExpr.text]

/-- There is a field for every member, in order. -/
theorem map_key_inferFields (l : Language) (ms : Members) (r : Registry) :
    (inferFields l ms r).1.map (·.key) = ms.keys := by
  induction ms generalizing r with
  | nil => rfl
  | cons m ms ih =>
      obtain ⟨k, v⟩ := m
      rw [inferFields, List.map_cons, ih]
      rfl

end Objects

/-! ### Names -/

/-- The keys of the fields that a name is declared with. -/
def declaredKeys (r : Registry) (name : String) : Option (List String) :=
  (Keyed.get? r name).map fun fields => fields.map (·.key)

/-- The keys of the first object that is named so. -/
def firstKeys (os : List Visit) (name : String) : Option (List String) :=
  (os.find? (pascalCase ·.name == name)).map (·.members.keys)

/-- The first object in two lists is the first one in the first list that has one. -/
theorem firstKeys_append (os os' : List Visit) (name : String) :
    firstKeys (os ++ os') name = (firstKeys os name).or (firstKeys os' name) := by
  rw [firstKeys, List.find?_append, Option.map_or]
  rfl

/-- An object is the first one under its name, and none under another. -/
theorem firstKeys_cons (o : Visit) (os : List Visit) (name : String) :
    firstKeys (o :: os) name =
      if pascalCase o.name = name then some o.members.keys else firstKeys os name := by
  by_cases h : pascalCase o.name = name
  · rw [if_pos h, firstKeys, List.find?_cons_of_pos (by simpa using h), Option.map_some]
  · rw [if_neg h, firstKeys, List.find?_cons_of_neg (by simpa using h), firstKeys]

/-- A declaration has the keys that it is made with, and the others keep theirs. -/
theorem declaredKeys_insert (r : Registry) (declared name : String)
    (fields : List Declaration.Field) :
    declaredKeys (Keyed.insert r declared fields) name =
      if declared = name then some (fields.map (·.key)) else declaredKeys r name := by
  rw [declaredKeys, Keyed.get?_insert]
  by_cases h : declared = name
  · rw [if_pos h, if_pos h, Option.map_some]
  · rw [if_neg h, if_neg h, declaredKeys]

/-- The declarations after a walk over one list and then another one, if each of the two walks
declares what its first objects are. -/
theorem declaredKeys_append {r r' r'' : Registry} {os os' : List Visit} {name : String}
    (h : declaredKeys r' name = (declaredKeys r name).or (firstKeys os name))
    (h' : declaredKeys r'' name = (declaredKeys r' name).or (firstKeys os' name)) :
    declaredKeys r'' name = (declaredKeys r name).or (firstKeys (os ++ os') name) := by
  rw [h', h, firstKeys_append, Option.or_assoc]

/-- A walk over a value declares what the first objects are that it comes to. -/
def DeclaresFirst (l : Language) (v : Value) : Prop :=
  ∀ key name r, declaredKeys (inferType l key v r).2 name =
    (declaredKeys r name).or (firstKeys (visits l key v r) name)

/-- The declarations after a walk over the first items of a list, given those after each item. -/
theorem declaredKeys_inferItemTypes {l : Language} {vs : List Value}
    (h : ∀ v ∈ vs, DeclaresFirst l v) (key name : String) (count : Nat) (r : Registry) :
    declaredKeys (inferItemTypes l key count vs r).2 name =
      (declaredKeys r name).or (firstKeys (itemVisits l key count vs r) name) := by
  induction vs generalizing count r with
  | nil => exact (Option.or_none).symm
  | cons v vs ih =>
      cases count with
      | zero => exact (Option.or_none).symm
      | succ count =>
          rw [List.forall_mem_cons] at h
          exact declaredKeys_append (h.1 key name r) (ih h.2 count _)

/-- The declarations after a walk over members, given those after each value. -/
theorem declaredKeys_inferFields {l : Language} {ms : Members}
    (h : ∀ k v, (k, v) ∈ ms → DeclaresFirst l v) (name : String) (r : Registry) :
    declaredKeys (inferFields l ms r).2 name =
      (declaredKeys r name).or (firstKeys (memberVisits l ms r) name) := by
  induction ms generalizing r with
  | nil => exact (Option.or_none).symm
  | cons m ms ih =>
      obtain ⟨k, v⟩ := m
      rw [Keyed.forall_mem_cons] at h
      exact declaredKeys_append (h.1 k name r) (ih h.2 _)

/-- **The declarations after a walk**: a name that was declared before keeps its fields, and any
other one has the fields of the first object that the walk comes to under it. -/
theorem declaredKeys_inferType (l : Language) (v : Value) : DeclaresFirst l v := by
  induction v using Value.induct with
  | null | bool _ | number _ | string _ => exact fun _ _ _ => (Option.or_none).symm
  | array vs ih =>
      intro key name r
      have hitems := declaredKeys_inferItemTypes ih (key ++ "Item") name l.sampleSize r
      rw [inferType, visits]
      exact hitems
  | object ms ih =>
      intro key name r
      have hnil : firstKeys [] name = none := rfl
      by_cases hhas : Keyed.has r (pascalCase key) = true
      · rw [inferType_of_has hhas, visits, if_pos hhas, firstKeys_cons, hnil]
        by_cases hname : pascalCase key = name
        · obtain ⟨fields, hfields⟩ := Option.isSome_iff_exists.mp hhas
          rw [declaredKeys, ← hname, hfields]
          rfl
        · rw [if_neg hname, Option.or_none]
      · rw [inferType_of_not_has hhas, visits, if_neg hhas, declaredKeys_insert, firstKeys_cons]
        by_cases hname : pascalCase key = name
        · have hnone : Keyed.get? r name = none := by
            rw [Keyed.has, Bool.not_eq_true, Option.isSome_eq_false_iff,
              Option.isNone_iff_eq_none] at hhas
            exact hname ▸ hhas
          rw [if_pos hname, if_pos hname, declaredKeys, hnone, map_key_inferFields]
          rfl
        · rw [if_neg hname, if_neg hname, declaredKeys_inferFields ih]

/-! ### Documents -/

/-- **The fields of the declaration that an object is given.** The type text of an object that the
walk comes to names a declaration, and this has exactly the fields of the first object that the
walk comes to with that text. So there is a field for every key of an object exactly if that first
one has all of its keys. -/
theorem declarations_visited {l : Language} {rootName : String} {v : Value} {o : Visit}
    (ho : o ∈ visits l rootName v []) :
    ∃ first fields,
      (visits l rootName v []).find? (·.typeText l == o.typeText l) = some first ∧
        Keyed.get? (declarations l rootName v) (o.typeText l) = some fields ∧
        fields.map (·.key) = first.members.keys ∧
        ((∀ k ∈ o.members.keys, ∃ f ∈ fields, f.key = k) ↔
          o.members.keys ⊆ first.members.keys) := by
  have htext : (fun o' : Visit => o'.typeText l == o.typeText l) =
      fun o' => pascalCase o'.name == o.typeText l := by
    funext o'
    rw [Visit.typeText_eq l o']
  rw [htext]
  obtain ⟨first, hfirst⟩ : ∃ first,
      (visits l rootName v []).find? (pascalCase ·.name == o.typeText l) = some first := by
    rw [← Option.isSome_iff_exists, List.find?_isSome]
    exact ⟨o, ho, beq_iff_eq.mpr (Visit.typeText_eq l o).symm⟩
  have hkeys := declaredKeys_inferType l v rootName (o.typeText l) []
  rw [firstKeys, hfirst, Option.map_some] at hkeys
  obtain ⟨fields, hget, hfields⟩ := Option.map_eq_some_iff.mp hkeys
  refine ⟨first, fields, hfirst, hget, hfields, ?_⟩
  rw [← hfields]
  constructor
  · intro h k hk
    obtain ⟨f, hf, rfl⟩ := h k hk
    exact List.mem_map_of_mem hf
  · intro h k hk
    exact List.mem_map.mp (h hk)

/-- An object inside of one of its own name is declared first and then replaced. -/
example :
    (declarations .go "Root" (.object [("x", .object [("v", .null),
        ("x", .object [("w", .null)])])])).map (fun (name, fields) => (name, fields.map (·.key))) =
      [("X", ["v", "x"]), ("Root", ["x"])] := by rfl

/-- A document with two objects under one name, of which the second has some keys of the first. -/
def sharedName : Value :=
  .object [("a", .object [("x", .object [("v", .int 1), ("w", .int 2)])]),
    ("b", .object [("x", .object [("w", .null)])])]

/-- The second object, when the walk comes to it. -/
def laterShape : Visit where
  name := "x"
  members := [("w", .null)]
  declared :=
    (inferFields .go [("a", .object [("x", .object [("v", .int 1), ("w", .int 2)])])] []).2

/-- The second object shares the declaration of the first one, and finds its key there. -/
theorem declarations_visited_sharedName :
    laterShape ∈ visits .go "Root" sharedName [] ∧
      ∃ first fields,
        (visits .go "Root" sharedName []).find? (·.typeText .go == laterShape.typeText .go) =
            some first ∧
          Keyed.get? (declarations .go "Root" sharedName) (laterShape.typeText .go) = some fields ∧
          fields.map (·.key) = first.members.keys ∧
          ((∀ k ∈ laterShape.members.keys, ∃ f ∈ fields, f.key = k) ↔
            laterShape.members.keys ⊆ first.members.keys) := by
  have hvisit : (visits .go "Root" sharedName [])[4]? = some laterShape := by rfl
  have ho : laterShape ∈ visits .go "Root" sharedName [] := List.mem_of_getElem? hvisit
  exact ⟨ho, declarations_visited ho⟩

/-- A list of two objects with different keys. -/
def twoShapes : Value := .array [.object [("a", .int 1)], .object [("b", .int 2)]]

/-- The second object of the list, when the walk comes to it. -/
def secondShape : Visit where
  name := "RootItem"
  members := [("b", .int 2)]
  declared := declarations .typeScript "Root" twoShapes

/-- Two items of a list share a declaration, and there is no field in it for the key of the second
one. -/
theorem not_forall_declarations_visited :
    ¬∀ (l : Language) (rootName : String) (v : Value) (o : Visit), o ∈ visits l rootName v [] →
      ∃ fields, Keyed.get? (declarations l rootName v) (o.typeText l) = some fields ∧
        ∀ k ∈ o.members.keys, ∃ f ∈ fields, f.key = k := by
  intro h
  have hvisit : (visits .typeScript "Root" twoShapes [])[1]? = some secondShape := by rfl
  have hkeys : (Keyed.get? (declarations .typeScript "Root" twoShapes)
      (secondShape.typeText .typeScript)).map (·.map (·.key)) = some ["a"] := by rfl
  obtain ⟨fields, hget, hall⟩ := h _ _ _ _ (List.mem_of_getElem? hvisit)
  rw [hget, Option.map_some, Option.some.injEq] at hkeys
  obtain ⟨f, hf, hkey⟩ := hall "b" (List.mem_cons_self ..)
  have hmem : f.key ∈ fields.map (·.key) := List.mem_map_of_mem hf
  rw [hkeys, hkey] at hmem
  exact absurd hmem (by decide)

end JsonWorkbench
