import JsonWorkbench.Proofs.Text
import JsonWorkbench.Transform.Flatten
import Mathlib.Data.List.Induction

/-!
# Flat Keys

The flat key of a leaf is written from the root on, segment by segment; the path is read back from
the parts between the separators, and each part from its end on. The two agree if a flat key is
legible (`LegiblePath`): each separator is found where it was put and nowhere else, also not across
the end of a part; no name looks as if an index stood behind it; and an empty name has neither an
index behind it nor, at the start, a separator.

This is so, whatever the names are otherwise, if the separator can be told from everything else: it
is not empty, and the names on the way, the brackets and the digits of the indices have none of its
characters (`FlatSegment`).

The reading is followed from left to right with the part that has been begun: a name, which may be
missing, and the indices behind it. An index lengthens that part, and a name ends it.

## Main definitions

* `FlatSeparator`, `FlatName`, `FlatSegment` — the separators, names and segments that can be told
  apart.
* `flatKey` — the flat key of a path.
* `LegiblePath` — the paths that can be read from their flat keys.

## Main results

* `LegiblePath.splitFlatKey_flatKey` — a legible path is read back from its flat key.
* `splitFlatKey_flatKey` — a path of segments that can be told apart is.
-/

namespace JsonWorkbench

/-- A separator that occurs neither in indices nor, being empty, everywhere. -/
def FlatSeparator (separator : String) : Prop :=
  separator ≠ "" ∧ ∀ c ∈ separator.toList, c ≠ '[' ∧ c ≠ ']' ∧ c.isDigit = false

-- The characters of the text are gone through, not all characters that there are.
instance : DecidablePred FlatSeparator := fun separator =>
  @instDecidableAnd _ _ inferInstance (List.decidableBAll _ separator.toList)

/-- A name without brackets and without characters of the separator. -/
def FlatName (separator name : String) : Prop :=
  name ≠ "" ∧ ∀ c ∈ name.toList, c ≠ '[' ∧ c ≠ ']' ∧ c ∉ separator.toList

instance (separator : String) : DecidablePred (FlatName separator) := fun name =>
  @instDecidableAnd _ _ inferInstance (List.decidableBAll _ name.toList)

/-- A segment that a flat key can hold: a name, or an index of 64 bits. -/
def FlatSegment (separator : String) : Segment φ → Prop
  | .key k => FlatName separator k
  | .index i => i < Value.lengthBound
  | _ => False

/-- The flat key one segment further. -/
def extendKey (separator at_ : String) : Segment φ → String
  | .key k => joinKey separator at_ k
  | .index i => joinIndex at_ i
  | _ => at_

/-- The flat key of a path that begins at a flat key. -/
def flatKey (separator at_ : String) (path : Segments φ) : String :=
  path.foldl (extendKey separator) at_

/-! ### The text of a flat key -/

/-- An index in brackets. -/
def bracketed (i : Nat) : List Char := '[' :: digitsOf i ++ [']']

/-- What a path adds to a flat key that is not empty. -/
def keyTail (separator : List Char) : Segments φ → List Char
  | [] => []
  | .key k :: path => separator ++ k.toList ++ keyTail separator path
  | .index i :: path => bracketed i ++ keyTail separator path
  | _ :: path => keyTail separator path

/-- A text with an index behind it. -/
theorem toList_joinIndex (at_ : String) (i : Nat) :
    (joinIndex at_ i).toList = at_.toList ++ bracketed i := by
  simp [joinIndex, bracketed, digitsOf]

/-- A text with an index behind it is not empty. -/
theorem joinIndex_ne_empty (at_ : String) (i : Nat) : joinIndex at_ i ≠ "" := by
  intro h
  have hlist := congrArg String.toList h
  simp [toList_joinIndex, bracketed] at hlist

/-- Below the root a name stands behind a separator. -/
theorem joinKey_of_ne_empty {separator at_ : String} (h : at_ ≠ "") (k : String) :
    joinKey separator at_ k = at_ ++ separator ++ k := by
  have hne : at_.isEmpty = false := by simpa using h
  simp [joinKey, hne]

/-- The flat key of a path below a place that is not the root. -/
theorem toList_flatKey {separator at_ : String} (h : at_ ≠ "") (path : Segments φ) :
    (flatKey separator at_ path).toList = at_.toList ++ keyTail separator.toList path := by
  induction path generalizing at_ with
  | nil => simp [flatKey, keyTail]
  | cons s path ih =>
      rw [flatKey, List.foldl_cons, ← flatKey]
      cases s with
      | key k =>
          have hne : at_ ++ separator ++ k ≠ "" := by simp [h]
          rw [extendKey, joinKey_of_ne_empty h, ih hne]
          simp [keyTail, List.append_assoc]
      | index i =>
          rw [extendKey, ih (joinIndex_ne_empty at_ i), toList_joinIndex]
          simp [keyTail, List.append_assoc]
      | wildcard | slice _ _ | filter _ | descendant _ => simpa [keyTail, extendKey] using ih h

/-! ### Reading a part -/

/-- A part of a flat key: a name and indices behind it. -/
def keyPart (name : List Char) (indices : List Nat) : List Char :=
  name ++ indices.flatMap bracketed

/-- A part with one more index. -/
theorem keyPart_append (name : List Char) (indices : List Nat) (i : Nat) :
    keyPart name indices ++ bracketed i = keyPart name (indices ++ [i]) := by
  simp [keyPart, List.append_assoc]

/-- What can be read as an index has no brackets. -/
theorem ne_bracket_of_readIndex? {digits : List Char} {i : Nat} (h : readIndex? digits = some i) :
    ∀ c ∈ digits, c ≠ '[' := by
  have hdigit : ∀ {cs : List Char}, cs.all Char.isDigit = true → '[' ∉ cs := fun hall hmem =>
    absurd (List.all_eq_true.mp hall _ hmem) (by decide)
  rintro c hc rfl
  simp only [readIndex?, Option.ite_none_right_eq_some, Bool.and_eq_true] at h
  replace h := h.1.1.2
  split at h
  · next rest => exact hdigit h (List.mem_of_ne_of_mem (by decide) hc)
  · exact hdigit h hc

/-- The last index of a part is taken first. -/
theorem splitIndices_readable {digits : List Char} {i : Nat} (h : readIndex? digits = some i)
    (fuel : Nat) (before : List Char) :
    splitIndices (fuel + 1) (']' :: (digits.reverse ++ '[' :: before)) =
      ((splitIndices fuel before).1, (splitIndices fuel before).2 ++ [i]) := by
  have hspan : ((digits.reverse ++ '[' :: before).span (· != '[')) =
      (digits.reverse, '[' :: before) := by
    have hall : ∀ c ∈ digits.reverse, (c != '[') = true := fun c hc =>
      bne_iff_ne.mpr (ne_bracket_of_readIndex? h c (List.mem_reverse.mp hc))
    exact Text.span_append hall (Text.stops_cons.mpr rfl)
  rw [splitIndices, hspan]
  simp only [List.reverse_reverse, h]

/-- An index in brackets is taken from the end of a part. -/
theorem splitIndices_bracketed {i : Nat} (hi : i < Value.lengthBound) (fuel : Nat)
    (before : List Char) :
    splitIndices (fuel + 1) ((bracketed i).reverse ++ before) =
      ((splitIndices fuel before).1, (splitIndices fuel before).2 ++ [i]) := by
  have htext : (bracketed i).reverse ++ before =
      ']' :: ((digitsOf i).reverse ++ '[' :: before) := by
    simp [bracketed]
  rw [htext, splitIndices_readable (readIndex?_digitsOf hi)]

/-- A name at whose end no index in brackets can be read. -/
def Unindexed (name : List Char) : Prop :=
  ∀ before digits, name = before ++ '[' :: (digits ++ [']']) → readIndex? digits = none

/-- A name without closing brackets has no index at its end. -/
theorem unindexed_of_no_bracket {name : List Char} (h : ∀ c ∈ name, c ≠ ']') : Unindexed name := by
  rintro before digits rfl
  exact absurd rfl (h ']' (by simp))

/-- A name without an index at its end is left over. -/
theorem Unindexed.splitIndices_eq {name : List Char} (h : Unindexed name) (fuel : Nat) :
    splitIndices fuel name.reverse = (name.reverse, []) := by
  cases fuel with
  | zero => rfl
  | succ fuel =>
      rcases hname : name.reverse with - | ⟨c, rest⟩
      · rfl
      by_cases hc : c = ']'
      case neg =>
        rw [splitIndices]
        exact fun rest' heq => hc (List.cons.inj heq).1
      case pos =>
        subst hc
        rw [splitIndices]
        rcases hspan : rest.span (· != '[') with ⟨digits, - | ⟨c, before⟩⟩
        · rfl
        · obtain ⟨rfl, -, hstop⟩ := Text.span_eq_iff.mp hspan
          obtain rfl : c = '[' := by simpa [Text.stops_cons] using hstop
          have heq : name = before.reverse ++ '[' :: (digits.reverse ++ [']']) := by
            rw [← List.reverse_reverse name, hname]
            simp
          simp only [h _ _ heq]

/-- A name has no index at its end exactly if none is taken from it. -/
theorem unindexed_iff {name : List Char} :
    Unindexed name ↔ splitIndices 1 name.reverse = (name.reverse, []) := by
  refine ⟨fun h => h.splitIndices_eq 1, fun h before digits heq => ?_⟩
  cases hread : readIndex? digits with
  | none => rfl
  | some i =>
      have htext : name.reverse = ']' :: (digits.reverse ++ '[' :: before.reverse) := by
        simp [heq]
      rw [htext, splitIndices_readable hread] at h
      simp at h

instance (name : List Char) : Decidable (Unindexed name) := decidable_of_iff _ unindexed_iff.symm

/-- All indices of a part are taken, and the name is left over. -/
theorem splitIndices_keyPart {name : List Char} (hname : Unindexed name) {indices : List Nat}
    (hi : ∀ i ∈ indices, i < Value.lengthBound) {fuel : Nat} (hfuel : indices.length ≤ fuel) :
    splitIndices fuel (keyPart name indices).reverse = (name.reverse, indices) := by
  induction indices using List.reverseRecOn generalizing fuel with
  | nil => simpa [keyPart] using hname.splitIndices_eq fuel
  | append_singleton indices i ih =>
      rw [List.length_append, List.length_singleton] at hfuel
      obtain ⟨fuel, rfl⟩ : ∃ f, fuel = f + 1 := ⟨fuel - 1, by omega⟩
      have hbefore := ih (fun j hj => hi j (List.mem_append_left _ hj))
        (show indices.length ≤ fuel by omega)
      rw [← keyPart_append, List.reverse_append, splitIndices_bracketed (hi i (by simp)), hbefore]

/-- The segments that a part stands for: a name is missing if it is empty and there are indices. -/
def partPath (name : List Char) (indices : List Nat) : Path :=
  (if name.isEmpty && !indices.isEmpty then [] else [.key (String.ofList name)]) ++
    indices.map .index

/-- A part with one more index, if it has a name or an index before. -/
theorem partPath_append {name : List Char} {indices : List Nat} (h : keyPart name indices ≠ [])
    (i : Nat) : partPath name (indices ++ [i]) = partPath name indices ++ [.index i] := by
  rcases name with - | ⟨c, name⟩
  · have hne : indices ≠ [] := by
      rintro rfl
      exact h rfl
    simp [partPath, hne]
  · simp [partPath]

/-- The segments of a part are read back from it. -/
theorem partSegments_keyPart {name : List Char} (hname : Unindexed name) {indices : List Nat}
    (hi : ∀ i ∈ indices, i < Value.lengthBound) :
    partSegments (keyPart name indices) = partPath name indices := by
  have hfuel : indices.length ≤ (keyPart name indices).length := by
    have hle : indices.length ≤ (indices.flatMap bracketed).length := by
      clear hi
      induction indices with
      | nil => exact Nat.le_refl _
      | cons i indices ih =>
          rw [List.flatMap_cons, List.length_append, List.length_cons]
          simp only [bracketed, List.length_append, List.length_cons]
          omega
    rw [keyPart, List.length_append]
    omega
  rw [partSegments, splitIndices_keyPart hname hi hfuel, partPath]
  simp

/-- Every part of a flat key has a segment. -/
theorem partSegments_ne_nil (part : List Char) : partSegments part ≠ [] := by
  rw [partSegments]
  rcases splitIndices part.length part.reverse with ⟨name, - | ⟨i, indices⟩⟩ <;> simp

/-- No flat key stands for the root. -/
theorem splitFlatKey_ne_nil (separator key : String) : splitFlatKey separator key ≠ [] := by
  have hparts : (if separator.isEmpty then [key.toList]
      else Text.splitText separator.toList key.toList) ≠ [] := by
    split
    · exact List.cons_ne_nil _ _
    · exact Text.splitText_ne_nil _ _
  obtain ⟨part, parts, heq⟩ := List.exists_cons_of_ne_nil hparts
  rw [splitFlatKey, heq, List.flatMap_cons]
  exact List.append_ne_nil_of_left_ne_nil (partSegments_ne_nil part) _

/-! ### Reading a flat key -/

/-- The rest of a path can be read behind a part of a flat key that has been begun: the separators
are found where they are put, and the names have no indices at their ends. -/
def Legible (separator : List Char) : List Char → Segments φ → Prop
  | part, [] => ¬separator <:+: part
  | part, .key k :: path =>
    Text.Delimits separator part ∧ Unindexed k.toList ∧ Legible separator k.toList path
  | part, .index i :: path => part ≠ [] ∧ Legible separator (part ++ bracketed i) path
  | _, _ :: _ => False

/-- A path can be read from its flat key. An empty name at the start must be the whole path, as no
separator is put behind it. -/
def LegiblePath (separator : List Char) : Segments φ → Prop
  | [] => True
  | .key k :: path => Unindexed k.toList ∧ (k = "" → path = []) ∧ Legible separator k.toList path
  | .index i :: path => Legible separator (bracketed i) path
  | _ :: _ => False

instance decidableLegible (separator : List Char) :
    (part : List Char) → (path : Segments φ) → Decidable (Legible separator part path)
  | part, [] => inferInstanceAs (Decidable (¬separator <:+: part))
  | part, .key k :: path =>
    have := decidableLegible separator k.toList path
    inferInstanceAs (Decidable (Text.Delimits separator part ∧ Unindexed k.toList ∧
      Legible separator k.toList path))
  | part, .index i :: path =>
    have := decidableLegible separator (part ++ bracketed i) path
    inferInstanceAs (Decidable (part ≠ [] ∧ Legible separator (part ++ bracketed i) path))
  | _, .wildcard :: _ | _, .slice _ _ :: _ | _, .filter _ :: _ | _, .descendant _ :: _ =>
    inferInstanceAs (Decidable False)

instance decidableLegiblePath (separator : List Char) :
    (path : Segments φ) → Decidable (LegiblePath separator path)
  | [] => inferInstanceAs (Decidable True)
  | .key k :: path => inferInstanceAs (Decidable (Unindexed k.toList ∧ (k = "" → path = []) ∧
      Legible separator k.toList path))
  | .index i :: path => inferInstanceAs (Decidable (Legible separator (bracketed i) path))
  | .wildcard :: _ | .slice _ _ :: _ | .filter _ :: _ | .descendant _ :: _ =>
    inferInstanceAs (Decidable False)

/-- Where something can be read, the separator is not empty. -/
theorem Legible.ne_nil {separator part : List Char} {path : Segments φ}
    (h : Legible separator part path) : separator ≠ [] := by
  induction path generalizing part with
  | nil =>
      rintro rfl
      exact h (List.nil_infix)
  | cons s path ih =>
      cases s with
      | key k => exact ih h.2.2
      | index i => exact ih h.2
      | wildcard | slice _ _ | filter _ | descendant _ => exact h.elim

/-- The reading from left to right: a part that has been begun, and the path behind it. -/
theorem flatMap_partSegments {separator name : List Char} (hname : Unindexed name)
    {indices : List Nat} (hi : ∀ i ∈ indices, i < Value.lengthBound) {path : Path}
    (hpath : Legible separator (keyPart name indices) path)
    (hbound : ∀ i, .index i ∈ path → i < Value.lengthBound) :
    (Text.splitText separator (keyPart name indices ++ keyTail separator path)).flatMap
      partSegments = partPath name indices ++ path := by
  induction path generalizing name indices with
  | nil =>
      rw [keyTail, List.append_nil, Text.splitText_eq_singleton hpath, List.flatMap_singleton,
        partSegments_keyPart hname hi, List.append_nil]
  | cons s path ih =>
      have hrest : ∀ i, .index i ∈ path → i < Value.lengthBound :=
        fun i hmem => hbound i (List.mem_cons_of_mem _ hmem)
      cases s with
      | key k =>
          obtain ⟨hend, hk, hpath⟩ := hpath
          have hpart : keyPart k.toList [] = k.toList := by simp [keyPart]
          rw [← hpart] at hpath
          have hnext := ih hk (by simp) hpath hrest
          rw [hpart] at hnext
          rw [keyTail, List.append_assoc, Text.splitText_append hpath.ne_nil hend,
            List.flatMap_cons, partSegments_keyPart hname hi, hnext]
          simp [partPath]
      | index i =>
          obtain ⟨hpart, hpath⟩ := hpath
          have hi' : ∀ j ∈ indices ++ [i], j < Value.lengthBound := by
            intro j hj
            rcases List.mem_append.mp hj with hj | hj
            · exact hi j hj
            · rw [List.mem_singleton.mp hj]
              exact hbound i (List.mem_cons_self ..)
          rw [keyPart_append] at hpath
          have hnext := ih hname hi' hpath hrest
          rw [keyTail, ← List.append_assoc, keyPart_append, hnext, partPath_append hpart,
            List.append_assoc, List.singleton_append]
      | wildcard | slice _ _ | filter _ | descendant _ => exact hpath.elim

/-- The flat key of a path that begins with a name. An empty name has no separator behind it. -/
theorem toList_flatKey_key (separator : String) {k : String} (path : Segments φ)
    (h : k = "" → path = []) : (flatKey separator "" (.key k :: path)).toList =
      k.toList ++ keyTail separator.toList path := by
  rw [flatKey, List.foldl_cons, ← flatKey]
  have hkey : extendKey separator "" (.key k : Segment φ) = k := rfl
  rw [hkey]
  by_cases hk : k = ""
  · rw [h hk, hk]
    rfl
  · exact toList_flatKey hk path

/-- The flat key of a path that begins with an index. -/
theorem toList_flatKey_index (separator : String) (i : Nat) (path : Segments φ) :
    (flatKey separator "" (.index i :: path)).toList =
      bracketed i ++ keyTail separator.toList path := by
  rw [flatKey, List.foldl_cons, ← flatKey, extendKey, toList_flatKey (joinIndex_ne_empty "" i),
    toList_joinIndex]
  rfl

/-- **A legible path is read back from its flat key.** -/
theorem LegiblePath.splitFlatKey_flatKey {separator : String} {path : Path} (hne : path ≠ [])
    (h : LegiblePath separator.toList path)
    (hbound : ∀ i, .index i ∈ path → i < Value.lengthBound) :
    splitFlatKey separator (flatKey separator "" path) = path := by
  obtain ⟨s, path, rfl⟩ := List.exists_cons_of_ne_nil hne
  have hrest : ∀ i, .index i ∈ path → i < Value.lengthBound :=
    fun i hmem => hbound i (List.mem_cons_of_mem _ hmem)
  cases s with
  | key k =>
      obtain ⟨hk, hempty, hpath⟩ := h
      have hsep : separator.isEmpty = false := by simpa using hpath.ne_nil
      have hpart : keyPart k.toList [] = k.toList := by simp [keyPart]
      rw [← hpart] at hpath
      have hread := flatMap_partSegments hk (by simp) hpath hrest
      rw [hpart] at hread
      rw [splitFlatKey, hsep, if_neg Bool.false_ne_true, toList_flatKey_key separator path hempty,
        hread]
      simp [partPath]
  | index i =>
      have hpath : Legible separator.toList (bracketed i) path := h
      have hsep : separator.isEmpty = false := by simpa using hpath.ne_nil
      have hpart : keyPart [] [i] = bracketed i := by simp [keyPart]
      rw [← hpart] at hpath
      have hread := flatMap_partSegments (unindexed_of_no_bracket (by simp))
        (List.forall_mem_singleton.mpr (hbound i (List.mem_cons_self ..))) hpath hrest
      rw [hpart] at hread
      rw [splitFlatKey, hsep, if_neg Bool.false_ne_true, toList_flatKey_index, hread]
      simp [partPath]
  | wildcard | slice _ _ | filter _ | descendant _ => exact h.elim

/-! ### Segments that can be told apart -/

/-- The brackets and digits of an index have no character of such a separator. -/
theorem FlatSeparator.not_mem_bracketed {separator : String} (hs : FlatSeparator separator)
    (i : Nat) : ∀ c ∈ bracketed i, c ∉ separator.toList := by
  intro c hc hmem
  obtain ⟨hopen, hclose, hdigit⟩ := hs.2 c hmem
  simp only [bracketed, List.cons_append, List.mem_cons, List.mem_append, List.not_mem_nil,
    or_false] at hc
  rcases hc with hc | hc | hc
  · exact hopen hc
  · rw [isDigit_of_mem_digitsOf hc] at hdigit
    exact Bool.noConfusion hdigit
  · exact hclose hc

/-- Such segments can be read behind a part that has no character of the separator. -/
theorem legible_of_flatSegment {separator : String} (hs : FlatSeparator separator)
    {part : List Char} (hne : part ≠ []) (hpart : ∀ c ∈ part, c ∉ separator.toList)
    {path : Segments φ} (hpath : ∀ s ∈ path, FlatSegment separator s) :
    Legible separator.toList part path := by
  have hsep : separator.toList ≠ [] := by simpa using hs.1
  induction path generalizing part with
  | nil => exact Text.not_infix_of_disjoint hsep hpart
  | cons s path ih =>
      rw [List.forall_mem_cons] at hpath
      obtain ⟨hseg, hpath⟩ := hpath
      cases s with
      | key k =>
          exact ⟨Text.delimits_of_disjoint hsep hpart,
            unindexed_of_no_bracket fun c hc => (hseg.2 c hc).2.1,
            ih (by simpa using hseg.1) (fun c hc => (hseg.2 c hc).2.2) hpath⟩
      | index i =>
          refine ⟨hne, ih (by simp [hne]) ?_ hpath⟩
          intro c hc
          rcases List.mem_append.mp hc with hc | hc
          · exact hpart c hc
          · exact hs.not_mem_bracketed i c hc
      | wildcard | slice _ _ | filter _ | descendant _ => exact hseg.elim

/-- **A path of such segments is read back from its flat key.** -/
theorem splitFlatKey_flatKey {separator : String} (hs : FlatSeparator separator) {path : Path}
    (hne : path ≠ []) (hpath : ∀ s ∈ path, FlatSegment separator s) :
    splitFlatKey separator (flatKey separator "" path) = path := by
  refine LegiblePath.splitFlatKey_flatKey hne ?_ fun i hi => hpath _ hi
  obtain ⟨s, path, rfl⟩ := List.exists_cons_of_ne_nil hne
  rw [List.forall_mem_cons] at hpath
  obtain ⟨hseg, hpath⟩ := hpath
  cases s with
  | key k =>
      exact ⟨unindexed_of_no_bracket fun c hc => (hseg.2 c hc).2.1, fun hk => absurd hk hseg.1,
        legible_of_flatSegment hs (by simpa using hseg.1) (fun c hc => (hseg.2 c hc).2.2) hpath⟩
  | index i =>
      exact legible_of_flatSegment hs (by simp [bracketed]) (hs.not_mem_bracketed i) hpath
  | wildcard | slice _ _ | filter _ | descendant _ => exact hseg.elim

/-- The flat key of a path that is not empty is not empty. -/
theorem flatKey_ne_empty {separator : String} {path : Path} (hne : path ≠ [])
    (hpath : ∀ s ∈ path, FlatSegment separator s) : flatKey separator "" path ≠ "" := by
  obtain ⟨s, path, rfl⟩ := List.exists_cons_of_ne_nil hne
  have hseg := hpath s (List.mem_cons_self ..)
  intro h
  cases s with
  | key k =>
      have hlist := toList_flatKey_key separator path fun hk => absurd hk hseg.1
      rw [h, String.toList_empty, eq_comm, List.append_eq_nil_iff] at hlist
      exact hseg.1 (by simpa using hlist.1)
  | index i =>
      have hlist := toList_flatKey_index separator i path
      simp [h, bracketed] at hlist
  | wildcard | slice _ _ | filter _ | descendant _ => exact hseg.elim

end JsonWorkbench
