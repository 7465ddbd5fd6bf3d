import JsonWorkbench.Query

/-!
# Queries Compose

A path may be followed in two parts: what the whole path selects is what the second part selects
in the results of the first. Where these stand depends on the first part alone. Each segment that
is not literal collects its results in an array, so that a path with `k` of them answers with `k`
levels of arrays, and its single results are the values under these levels.

Missing results are dropped only at the innermost of the levels. A literal segment that finds
nothing fails the branch that it stands in, up to the collecting segment before it, and the array
of that segment is there even when nothing is left in it; so the second part of a path can empty
an array of the innermost level, and never removes one.

## Main definitions

* `Path.collectors` — the number of levels that a path opens.
* `HasLevels` — levels of arrays around the values.
* `filterMapAt`, `followAt` — a function at the values under some levels.

## Main results

* `query_collecting` — what a segment does that is not literal.
* `query_append` — queries compose.
-/

namespace JsonWorkbench

/-! ### Levels of arrays -/

/-- The number of segments that are not literal. -/
def Path.collectors (path : Path) : Nat := path.countP (!·.isLiteral)

/-- A value has so many levels of arrays, whatever stands under them. -/
def HasLevels : Nat → Value → Prop
  | 0, _ => True
  | k + 1, .array vs => ∀ v ∈ vs, HasLevels k v
  | _ + 1, _ => False

/-- A value with a function at the values that stand under one level of arrays and `k` more, which
drops those for which the function has no answer. -/
def filterMapAt (f : Value → Option Value) : Nat → Value → Value
  | 0, .array vs => .array (vs.filterMap f)
  | k + 1, .array vs => .array (vs.map (filterMapAt f k))
  | _, v => v

/-- The answers of a function at the values under `k` levels of arrays; where there is no level,
the answer for the value itself. -/
def followAt (f : Value → Option Value) : Nat → Value → Option Value
  | 0, v => f v
  | k + 1, v => some (filterMapAt f k v)

/-- One level further out, a function answers at every item, or the items for which it has no
answer are dropped. -/
theorem followAt_array (f : Value → Option Value) (k : Nat) (vs : List Value) :
    followAt f (k + 1) (.array vs) = some (.array (vs.filterMap (followAt f k))) := by
  cases k with
  | zero => rfl
  | succ k =>
      have hall : followAt f (k + 1) = some ∘ filterMapAt f k := rfl
      rw [hall, List.filterMap_eq_map]
      rfl

/-! ### One segment -/

/-- The values that a segment selects which is not literal: none at all where it asks for an array
and there is none. -/
def selected : Segment Condition → Value → Option (List Value)
  | .wildcard, .array vs => some vs
  | .slice first last, .array vs => some (sliceOf first last vs)
  | .filter c, .array vs => some (vs.filter c.isMet)
  | .descendant k, v => some (descendants k v)
  | _, _ => none

/-- A literal segment leads on or finds nothing. -/
theorem query_literal {s : Segment Condition} (hs : s.isLiteral = true) (path : Path) (v : Value) :
    query (s :: path) v = (step v s).bind (query path) := by
  cases s with
  | key _ | index _ => rfl
  | wildcard | slice _ _ | filter _ | descendant _ => exact Bool.noConfusion hs

/-- **A segment that is not literal** follows the rest of the path from every value that it
selects, and collects what is found. -/
theorem query_collecting {s : Segment Condition} (hs : s.isLiteral = false) (path : Path)
    (v : Value) :
    query (s :: path) v = (selected s v).map fun vs => .array (vs.filterMap (query path)) := by
  cases s with
  | key _ | index _ => exact Bool.noConfusion hs
  | wildcard | slice _ _ | filter _ => cases v <;> rfl
  | descendant _ => rfl

/-- A literal segment opens no level. -/
theorem collectors_literal {s : Segment Condition} (hs : s.isLiteral = true) (path : Path) :
    Path.collectors (s :: path) = Path.collectors path := by
  simp [Path.collectors, hs]

/-- Every other segment opens one. -/
theorem collectors_collecting {s : Segment Condition} (hs : s.isLiteral = false) (path : Path) :
    Path.collectors (s :: path) = Path.collectors path + 1 := by
  simp [Path.collectors, hs]

/-! ### Paths -/

/-- What a path selects has as many levels as the path opens. -/
theorem hasLevels_query {p : Path} {d r : Value} (h : query p d = some r) :
    HasLevels p.collectors r := by
  induction p generalizing d r with
  | nil => exact trivial
  | cons s p ih =>
      cases hs : s.isLiteral with
      | true =>
          rw [query_literal hs, Option.bind_eq_some_iff] at h
          obtain ⟨child, -, hchild⟩ := h
          rw [collectors_literal hs]
          exact ih hchild
      | false =>
          rw [query_collecting hs, Option.map_eq_some_iff] at h
          obtain ⟨vs, -, rfl⟩ := h
          rw [collectors_collecting hs]
          intro w hw
          obtain ⟨v, -, hv⟩ := List.mem_filterMap.mp hw
          exact ih hv

/-- Following a path and then another one, from the results of the first. -/
theorem query_append_eq (p q : Path) (d : Value) :
    query (p ++ q) d = (query p d).bind (followAt (query q) p.collectors) := by
  induction p generalizing d with
  | nil => rfl
  | cons s p ih =>
      let follow := followAt (query q) (Path.collectors p)
      have hrest : query (p ++ q) = fun v => (query p v).bind follow := funext ih
      cases hs : s.isLiteral with
      | true =>
          calc query (s :: (p ++ q)) d
              = (step d s).bind (query (p ++ q)) := query_literal hs _ _
            _ = ((step d s).bind (query p)).bind follow := by rw [hrest, Option.bind_assoc]
            _ = (query (s :: p) d).bind (followAt (query q) (Path.collectors (s :: p))) := by
                  rw [query_literal hs, collectors_literal hs]
      | false =>
          -- what is dropped in two steps, for the first path and for the second, is dropped in one
          have hdrop (vs : List Value) :
              vs.filterMap (query (p ++ q)) = (vs.filterMap (query p)).filterMap follow := by
            rw [hrest, List.filterMap_filterMap]
          rw [List.cons_append, query_collecting hs, query_collecting hs, collectors_collecting hs]
          cases selected s d with
          | none => rfl
          | some vs =>
              rw [Option.map_some, Option.map_some, Option.bind_some, followAt_array, hdrop]

/-- **Queries compose.** With `k` the number of segments of `p` that are not literal, the results
of `p` have `k` levels of arrays, and `p` followed by `q` selects what `q` selects in the values
under these levels, in order and without those in which it finds nothing; where `p` opens no level
it is what `q` selects in the value found, and it is nothing where `p` selects nothing. -/
theorem query_append (p q : Path) (d : Value) :
    (∀ r, query p d = some r → HasLevels p.collectors r) ∧
      query (p ++ q) d = (query p d).bind (followAt (query q) p.collectors) :=
  ⟨fun _ h => hasLevels_query h, query_append_eq p q d⟩

/-- Of two items of two lists, the second part of a path drops the one that has no such key. -/
example :
    query [.wildcard, .wildcard, .key "a"]
        (.array [.array [.object [("a", .null)], .null], .array [.bool true]]) =
      some (.array [.array [.null], .array []]) := by rfl

end JsonWorkbench
