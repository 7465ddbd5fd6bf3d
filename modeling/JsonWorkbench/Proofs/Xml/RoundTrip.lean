import JsonWorkbench.Proofs.Keyed
import JsonWorkbench.Proofs.Numeral
import JsonWorkbench.Proofs.Value
import JsonWorkbench.Proofs.Xml.Element

/-!
# Documents as Elements and Back

A document that has been written as elements can always be read, and what it is read as can be said
without any text (`elementsOf`): an object whose members are its elements, collected under the
names that became of the keys, and for a scalar what its text stands for without the blanks around
it.

Not every document comes back as it was. An array of no or one item, an array in an array, a text
that reads as a number or has blanks around it, and a key that is no name are lost. A document
without these is read back as it was, with the order of its keys (`FitsElements`).

## Main definitions

* `elementsOf` — the elements of a value, with what they are read as.
* `FitsElements` — the values that elements can hold.

## Main results

* `decode_encode` — what a document is read back as.
* `decode_encode_of_fitsElements` — documents that are read back as they were.
-/

namespace JsonWorkbench.Xml

/-! ### What is read back -/

mutual

/-- The elements of a name that a value is written as, each with the value that it is read as. -/
def elementsOf (name : List Char) : Value → List (String × Value)
  | .null => [(String.ofList name, .null)]
  | .array [] => [(String.ofList name, .null)]
  | .array (v :: vs) => elementsOf name v ++ elementsOfItems name vs
  | .object [] => [(String.ofList name, .null)]
  | .object ((k, v) :: ms) =>
    [(String.ofList name,
      .object (collect (elementsOf (nameOf k.toList) v ++ elementsOfMembers ms)))]
  | .string s => [(String.ofList name, textValue (Text.trim s.toList))]
  | .bool b => [(String.ofList name, .bool b)]
  | .number n => [(String.ofList name, textValue (Text.trim (Json.writeNumber n)))]

/-- The elements of a name for each of the items. -/
def elementsOfItems (name : List Char) : List Value → List (String × Value)
  | [] => []
  | v :: vs => elementsOf name v ++ elementsOfItems name vs

/-- The elements for the members of an object. -/
def elementsOfMembers : List (String × Value) → List (String × Value)
  | [] => []
  | (k, v) :: ms => elementsOf (nameOf k.toList) v ++ elementsOfMembers ms

end

/-- The elements for items are those of each of them. -/
theorem elementsOfItems_eq_flatMap (name : List Char) (vs : List Value) :
    elementsOfItems name vs = vs.flatMap (elementsOf name) := by
  induction vs with
  | nil => rfl
  | cons v vs ih => rw [elementsOfItems, ih, List.flatMap_cons]

/-- The elements for members are those of each of them, under the name for its key. -/
theorem elementsOfMembers_eq_flatMap (ms : Members) :
    elementsOfMembers ms = ms.flatMap fun m => elementsOf (nameOf m.1.toList) m.2 := by
  induction ms with
  | nil => rfl
  | cons m ms ih => rw [elementsOfMembers, ih, List.flatMap_cons]

/-- Every value is written as an element at least. -/
theorem elementsOf_ne_nil (name : List Char) (v : Value) : elementsOf name v ≠ [] := by
  induction v using Value.induct with
  | null | bool _ | number _ | string _ => exact List.cons_ne_nil _ _
  | array vs ih =>
      cases vs with
      | nil => exact List.cons_ne_nil _ _
      | cons v vs => exact List.append_ne_nil_of_left_ne_nil (ih v (List.mem_cons_self ..)) _
  | object ms _ =>
      rcases ms with - | ⟨⟨k, v⟩, ms⟩ <;> exact List.cons_ne_nil _ _

/-! ### Lines -/

/-- Lines, each behind a line feed. -/
def below (lines : List (List Char)) : List Char := lines.flatMap ('\n' :: ·)

/-- Lines behind others. -/
theorem below_append (lines lines' : List (List Char)) :
    below (lines ++ lines') = below lines ++ below lines' := List.flatMap_append

/-- The start of a line is blank. -/
theorem isBlank_of_mem_lineStart (level : Nat) :
    ∀ c ∈ '\n' :: indentation level, Text.isBlank c = true := by
  intro c hc
  rw [List.mem_cons, indentation, List.mem_replicate] at hc
  rcases hc with rfl | ⟨-, rfl⟩ <;> decide

/-- An element that begins on a line. -/
theorem readsElements_line {cs : List Char} {element : String × Value} (h : ReadsElement cs element)
    (level : Nat) : ReadsElements ('\n' :: indentation level ++ '<' :: cs) [element] := by
  have hcons := ReadsElements.cons (isBlank_of_mem_lineStart level) (List.cons_ne_nil _ _) h .nil
  rwa [List.append_nil] at hcons

section Lines

variable {name : List Char} (hname : IsName name) (level : Nat)

include hname

/-- The line of a closed element. -/
theorem readsElements_closedElement :
    ReadsElements (below [closedElement name level]) [(String.ofList name, .null)] := by
  have h := readsElements_line (.closed hname) level
  simpa [below, closedElement] using h

/-- The line of an element with text. -/
theorem readsElements_textElement {text : List Char} (htext : '<' ∉ text) {v : Value}
    (hv : textValue (Text.trim (unescape text)) = v) :
    ReadsElements (below [textElement name level text]) [(String.ofList name, v)] := by
  have h := readsElements_line (.leaf hname htext) level
  rw [hv] at h
  simpa [below, textElement, openTag] using h

/-- The lines of an element with elements inside. -/
theorem readsElements_parent {lines : List (List Char)} {elements : List (String × Value)}
    (h : ReadsElements (below lines) elements) (hne : elements ≠ []) :
    ReadsElements (below ((indentation level ++ openTag name) ::
      (lines ++ [indentation level ++ closeTag name])))
      [(String.ofList name, .object (collect elements))] := by
  have hparent := readsElements_line
    (.parent hname h hne (isBlank_of_mem_lineStart level) (List.cons_ne_nil _ _)) level
  simpa [below, openTag] using hparent

end Lines

/-! ### Values -/

/-- The text of a truth value. -/
theorem textValue_bool (b : Bool) :
    '<' ∉ (toString b).toList ∧ textValue (Text.trim (unescape (toString b).toList)) = .bool b := by
  cases b <;> exact ⟨by decide, by rfl⟩

/-- The text of a number has nothing that means something. -/
theorem unescape_writeNumber (n : Number) :
    '<' ∉ Json.writeNumber n ∧ unescape (Json.writeNumber n) = Json.writeNumber n := by
  have hplain : ∀ c, IsNumeralChar c → c ≠ '<' ∧ c ≠ '&' := by
    rintro c hc
    constructor <;>
      · rintro rfl
        exact absurd hc (by unfold IsNumeralChar; decide)
  exact ⟨fun hmem => (hplain _ (isNumeralChar_of_mem_writeNumber n _ hmem)).1 rfl,
    unescape_of_not_mem fun hmem => (hplain _ (isNumeralChar_of_mem_writeNumber n _ hmem)).2 rfl⟩

/-- The lines of items are the text of their elements, if those of each item are. -/
theorem readsElements_itemLines {name : List Char} {level : Nat} {vs : List Value}
    (h : ∀ v ∈ vs, ReadsElements (below (elementLines name level v)) (elementsOf name v)) :
    ReadsElements (below (itemLines name level vs)) (elementsOfItems name vs) := by
  induction vs with
  | nil => exact .nil
  | cons v vs ih =>
      rw [List.forall_mem_cons] at h
      rw [itemLines, elementsOfItems, below_append]
      exact h.1.append (ih h.2)

/-- The lines of members are the text of their elements, if those of each member are. -/
theorem readsElements_memberLines {level : Nat} {ms : Members}
    (h : ∀ m ∈ ms, ReadsElements (below (elementLines (nameOf m.1.toList) level m.2))
      (elementsOf (nameOf m.1.toList) m.2)) :
    ReadsElements (below (memberLines level ms)) (elementsOfMembers ms) := by
  induction ms with
  | nil => exact .nil
  | cons m ms ih =>
      rw [List.forall_mem_cons] at h
      rw [memberLines, elementsOfMembers, below_append]
      exact h.1.append (ih h.2)

/-- **The lines of a value are the text of its elements.** -/
theorem readsElements_elementLines (v : Value) {name : List Char} (hname : IsName name)
    (level : Nat) : ReadsElements (below (elementLines name level v)) (elementsOf name v) := by
  induction v using Value.induct generalizing name level with
  | null => exact readsElements_closedElement hname level
  | bool b => exact readsElements_textElement hname level (textValue_bool b).1 (textValue_bool b).2
  | number n =>
      refine readsElements_textElement hname level (unescape_writeNumber n).1 ?_
      rw [(unescape_writeNumber n).2]
  | string s =>
      refine readsElements_textElement hname level (bracket_not_mem_escapeText _) ?_
      rw [unescape_escapeText]
  | array vs ih =>
      cases vs with
      | nil => exact readsElements_closedElement hname level
      | cons v vs => exact readsElements_itemLines fun w hw => ih w hw hname level
  | object ms ih =>
      cases ms with
      | nil => exact readsElements_closedElement hname level
      | cons m ms =>
          have hmembers : ReadsElements (below (memberLines (level + 1) (m :: ms)))
              (elementsOfMembers (m :: ms)) :=
            readsElements_memberLines fun m' hm => ih m'.1 m'.2 hm (isName_nameOf _) (level + 1)
          refine readsElements_parent hname level hmembers ?_
          exact List.append_ne_nil_of_left_ne_nil (elementsOf_ne_nil _ _) _

/-- **What a document is read back as.** -/
theorem decode_encode (v : Value) (rootName : String) :
    decode (encode v rootName) = .ok (rootValue (elementsOf (nameOf rootName.toList) v)) := by
  have hlines := readsElements_elementLines v (isName_nameOf rootName.toList) 0
  have hread := readDocument_of_readsElements hlines (elementsOf_ne_nil _ v)
  rw [decode, encode, String.toList_ofList, Text.flatten_intersperse, ← below, hread]
  rfl

/-! ### What comes back as it was -/

/-- A value that elements can hold: its texts have no blanks around them and do not read as
something else, its objects have members, under keys that are names, and an array is the value of a
member and has at least two items, none of them an array. -/
inductive FitsElements : Value → Prop
  /-- Null is a closed element. -/
  | null : FitsElements .null
  /-- A truth value is text. -/
  | bool (b : Bool) : FitsElements (.bool b)
  /-- An integer is text. -/
  | integer (n : Int) : FitsElements (.int n)
  /-- A text is itself. -/
  | string (s : String) (htrim : trimmed s = s) (hnumber : coerceNumber? s = none)
      (htrue : s ≠ "true") (hfalse : s ≠ "false") : FitsElements (.string s)
  /-- An object is its members. -/
  | object (ms : Members) (hne : ms ≠ []) (hname : ∀ k v, (k, v) ∈ ms → elementName k = k)
      (hvalue : ∀ k v, (k, v) ∈ ms → v.kind ≠ .array → FitsElements v)
      (hlength : ∀ k vs, (k, .array vs) ∈ ms → 2 ≤ vs.length)
      (hitem : ∀ k vs v, (k, .array vs) ∈ ms → v ∈ vs → FitsElements v) :
      FitsElements (.object ms)

/-- No value that elements can hold is an array itself. -/
theorem FitsElements.kind_ne {v : Value} (h : FitsElements v) : v.kind ≠ .array := by
  cases h <;> simp [Value.kind, Value.int]

/-- A text that is a value of its own is read as itself. -/
theorem textValue_of_fits {s : String} (htrim : trimmed s = s) (hnumber : coerceNumber? s = none)
    (htrue : s ≠ "true") (hfalse : s ≠ "false") :
    textValue (Text.trim s.toList) = .string s := by
  have hs : String.ofList (Text.trim s.toList) = s := htrim
  simp [textValue, hs, hnumber, htrue, hfalse]

/-- The text of an integer is read as the integer. -/
theorem textValue_int {n : Int} (h : Number.least ≤ n ∧ n ≤ Number.greatest) :
    textValue (Text.trim (toString n).toList) = .int n := by
  rw [trim_toString, textValue, String.ofList_toList, coerceNumber?_toString h]

/-- The elements of items that are one element each. -/
theorem elementsOfItems_eq {name : List Char} {vs : List Value}
    (h : ∀ v ∈ vs, elementsOf name v = [(String.ofList name, v)]) :
    elementsOfItems name vs = vs.map (String.ofList name, ·) := by
  rw [elementsOfItems_eq_flatMap, List.map_eq_flatMap]
  exact List.flatMap_congr h

/-! ### Collecting -/

/-- One more element among members. -/
def collectOne (ms : Members) (element : String × Value) : Members :=
  accumulate ms element.1 element.2

/-- An element of a new name becomes a member. -/
theorem collectOne_new {done : Members} {k : String} (hk : k ∉ done.map (·.1)) (v : Value) :
    collectOne done (k, v) = done ++ [(k, v)] := by
  have hget : Members.get? done k = none := Keyed.get?_eq_none_iff.mpr hk
  rw [collectOne, accumulate, hget]
  exact Keyed.insert_of_not_mem hk v

/-- A second element of a name makes an array. -/
theorem collectOne_second {done : Members} {k : String} (hk : k ∉ done.map (·.1)) {v : Value}
    (hv : v.kind ≠ .array) (w : Value) :
    collectOne (done ++ [(k, v)]) (k, w) = done ++ [(k, .array [v, w])] := by
  have hget : Members.get? (done ++ [(k, v)]) k = some v := by
    rw [Members.get?, Keyed.get?_append_of_not_mem hk]
    simp [Keyed.get?]
  rw [collectOne, accumulate, hget]
  cases v with
  | array vs => exact absurd rfl hv
  | null | bool | number | string | object => exact Keyed.insert_append_cons hk _ _

/-- Further elements of a name come behind the items that are there. -/
theorem foldl_collectOne_more {done : Members} {k : String} (hk : k ∉ done.map (·.1))
    (vs ws : List Value) :
    (ws.map (k, ·)).foldl collectOne (done ++ [(k, .array vs)]) =
      done ++ [(k, .array (vs ++ ws))] := by
  induction ws generalizing vs with
  | nil => simp
  | cons w ws ih =>
      have hget : Members.get? (done ++ [(k, .array vs)]) k = some (.array vs) := by
        rw [Members.get?, Keyed.get?_append_of_not_mem hk]
        simp [Keyed.get?]
      have hone : collectOne (done ++ [(k, .array vs)]) (k, w) =
          done ++ [(k, .array (vs ++ [w]))] := by
        rw [collectOne, accumulate, hget]
        exact Keyed.insert_append_cons hk _ _
      rw [List.map_cons, List.foldl_cons, hone, ih, List.append_assoc]
      rfl

/-- The elements of an array are collected in it. -/
theorem foldl_collectOne_array {done : Members} {k : String} (hk : k ∉ done.map (·.1))
    {vs : List Value} (hlen : 2 ≤ vs.length) (hvs : ∀ v ∈ vs, v.kind ≠ .array) :
    (vs.map (k, ·)).foldl collectOne done = done ++ [(k, .array vs)] := by
  match vs, hlen with
  | v :: w :: vs, _ =>
      rw [List.map_cons, List.map_cons, List.foldl_cons, List.foldl_cons, collectOne_new hk,
        collectOne_second hk (hvs v (List.mem_cons_self ..)), foldl_collectOne_more hk]
      rfl

/-- Members come back if the elements of each are collected in one member under its key. -/
theorem collect_elementsOfMembers {ms : Members} (hkeys : (ms.map (·.1)).Nodup)
    (h : ∀ k v, (k, v) ∈ ms → ∀ done : Members, k ∉ done.map (·.1) →
      (elementsOf (nameOf k.toList) v).foldl collectOne done = done ++ [(k, v)]) :
    collect (elementsOfMembers ms) = ms := by
  have hfold : ∀ (ns done : Members), ((done ++ ns).map (·.1)).Nodup → (∀ n ∈ ns, n ∈ ms) →
      (elementsOfMembers ns).foldl collectOne done = done ++ ns := by
    intro ns
    induction ns with
    | nil => simp [elementsOfMembers]
    | cons n ns ih =>
        intro done hnodup hns
        obtain ⟨k, v⟩ := n
        rw [List.forall_mem_cons] at hns
        have hk : k ∉ done.map (·.1) := fun hmem =>
          Keyed.not_mem_of_nodup_middle hnodup (by simp [hmem])
        rw [elementsOfMembers, List.foldl_append, h k v hns.1 done hk,
          ih _ (by simpa using hnodup) hns.2, List.append_assoc, List.singleton_append]
  exact hfold ms [] hkeys fun n hn => hn

/-- A value that is written as one element and read from it as itself, whatever the name. -/
structure ReadsAsItself (v : Value) : Prop where
  /-- It is no array, which would be an element for every item. -/
  kind_ne : v.kind ≠ .array
  /-- It is one element. -/
  elementsOf_eq : ∀ name, elementsOf name v = [(String.ofList name, v)]

/-- **An object is read as itself** if its keys are names and its values are read as themselves, or
are arrays of two or more values that are. -/
theorem readsAsItself_object {ms : Members} (hne : ms ≠ []) (hkeys : (ms.map (·.1)).Nodup)
    (hname : ∀ k v, (k, v) ∈ ms → elementName k = k)
    (hvalue : ∀ k v, (k, v) ∈ ms → v.kind ≠ .array → ReadsAsItself v)
    (hlength : ∀ k vs, (k, .array vs) ∈ ms → 2 ≤ vs.length)
    (hitem : ∀ k vs v, (k, .array vs) ∈ ms → v ∈ vs → ReadsAsItself v) :
    ReadsAsItself (.object ms) := by
  have hmember : ∀ k v, (k, v) ∈ ms → ∀ done : Members, k ∉ done.map (·.1) →
      (elementsOf (nameOf k.toList) v).foldl collectOne done = done ++ [(k, v)] := by
    intro k v hm done hk
    have hkey : String.ofList (nameOf k.toList) = k := hname k v hm
    by_cases harray : v.kind = .array
    · obtain ⟨vs, rfl⟩ : ∃ vs, v = .array vs := by
        cases v with
        | array vs => exact ⟨vs, rfl⟩
        | null | bool | number | string | object => cases harray
      have hitems : elementsOfItems (nameOf k.toList) vs = vs.map (k, ·) := by
        rw [elementsOfItems_eq fun w hw => (hitem k vs w hm hw).elementsOf_eq _, hkey]
      have helements : elementsOf (nameOf k.toList) (.array vs) = vs.map (k, ·) := by
        cases vs with
        | nil => exact absurd (hlength k [] hm) (by simp)
        | cons w ws => exact hitems
      rw [helements]
      exact foldl_collectOne_array hk (hlength k vs hm) fun w hw => (hitem k vs w hm hw).kind_ne
    · rw [(hvalue k v hm harray).elementsOf_eq, hkey]
      exact collectOne_new hk v
  have hcollect : collect (elementsOfMembers ms) = ms := collect_elementsOfMembers hkeys hmember
  refine ⟨by simp [Value.kind], fun name => ?_⟩
  cases ms with
  | nil => exact absurd rfl hne
  | cons m ms => exact congrArg (fun ns => [(String.ofList name, Value.object ns)]) hcollect

/-- A document that is read as itself comes back, whatever the name of its root. -/
theorem decode_encode_of_readsAsItself {v : Value} (h : ReadsAsItself v) (rootName : String) :
    decode (encode v rootName) = .ok v := by
  rw [decode_encode, h.elementsOf_eq]
  rfl

/-! ### Documents that elements can hold -/

/-- **A value that elements can hold is read as itself.** -/
theorem FitsElements.readsAsItself {v : Value} (hv : v.WellFormed) (h : FitsElements v) :
    ReadsAsItself v := by
  induction h with
  | null => exact ⟨FitsElements.null.kind_ne, fun _ => rfl⟩
  | bool b => exact ⟨(FitsElements.bool b).kind_ne, fun _ => rfl⟩
  | integer n =>
      exact ⟨(FitsElements.integer n).kind_ne, fun name =>
        congrArg (fun w => [(String.ofList name, w)]) (textValue_int hv)⟩
  | string s htrim hnumber htrue hfalse =>
      exact ⟨(FitsElements.string s htrim hnumber htrue hfalse).kind_ne,
        fun name => congrArg (fun w => [(String.ofList name, w)])
        (textValue_of_fits htrim hnumber htrue hfalse)⟩
  | object ms hne hname hvalue hlength hitem ihvalue ihitem =>
      rw [Value.wellFormed_object_iff] at hv
      exact readsAsItself_object hne hv.1 hname
        (fun k v hm hkind => ihvalue k v hm hkind (hv.2 k v hm)) hlength
        fun k vs v hm hmem => ihitem k vs v hm hmem
          ((Value.wellFormed_array_iff.mp (hv.2 k _ hm)).2 v hmem)

/-- **A value that elements can hold is read back as it was.** -/
theorem elementsOf_of_fitsElements {v : Value} (hv : v.WellFormed) (h : FitsElements v)
    (name : List Char) : elementsOf name v = [(String.ofList name, v)] :=
  (h.readsAsItself hv).elementsOf_eq name

/-- **A document that elements can hold is read back as it was**, whatever the name of its root. -/
theorem decode_encode_of_fitsElements {v : Value} (hv : v.WellFormed) (h : FitsElements v)
    (rootName : String) : decode (encode v rootName) = .ok v := by
  rw [decode_encode, elementsOf_of_fitsElements hv h]
  rfl

/-- Different things for a list, with texts full of marks. -/
def labels : List Value :=
  [.string "a < b && \"c\"", .null, .object [("x.y", .string "&lt;")], .string ""]

/-- A document with the list. -/
def labelledList : Value :=
  .object [("_id", .int (-7)), ("tag", .array labels), ("ok", .bool false)]

/-- The list, its texts and the order of the keys are read back. -/
theorem decode_encode_labelledList :
    (labelledList.WellFormed ∧ FitsElements labelledList) ∧
      decode (encode labelledList "no name") = .ok labelledList := by
  have hv : labelledList.WellFormed := by decide
  have htext : ∀ s ∈ ["a < b && \"c\"", "&lt;", ""], FitsElements (.string s) := by
    simp only [List.forall_mem_cons, List.not_mem_nil, false_implies, implies_true, and_true]
    refine ⟨?_, ?_, ?_⟩ <;> exact .string _ (by decide) (by rfl) (by decide) (by decide)
  have hinner : FitsElements (.object [("x.y", .string "&lt;")]) := by
    refine .object _ (List.cons_ne_nil _ _) ?_ ?_ ?_ ?_ <;> simp [htext]
    decide
  have hlabels : ∀ v ∈ labels, FitsElements v := by simp [labels, htext, hinner, FitsElements.null]
  have hfits : FitsElements labelledList := by
    have hname : elementName "_id" = "_id" ∧ elementName "tag" = "tag" ∧
        elementName "ok" = "ok" := by
      decide
    refine .object _ (List.cons_ne_nil _ _) ?_ ?_ ?_ ?_ <;>
      simp only [List.mem_cons, Prod.mk.injEq, List.not_mem_nil, or_false]
    · rintro k v (⟨rfl, -⟩ | ⟨rfl, -⟩ | ⟨rfl, -⟩)
      exacts [hname.1, hname.2.1, hname.2.2]
    · rintro k v (⟨-, rfl⟩ | ⟨-, rfl⟩ | ⟨-, rfl⟩) hkind
      exacts [.integer _, absurd rfl hkind, .bool _]
    · rintro k vs (⟨-, h⟩ | ⟨-, h⟩ | ⟨-, h⟩) <;> cases h
      decide
    · rintro k vs v (⟨-, h⟩ | ⟨-, h⟩ | ⟨-, h⟩) hmem <;> cases h
      exact hlabels v hmem
  exact ⟨⟨hv, hfits⟩, decode_encode_of_fitsElements hv hfits "no name"⟩

end JsonWorkbench.Xml
