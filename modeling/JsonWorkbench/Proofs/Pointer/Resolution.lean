import JsonWorkbench.Proofs.Pointer

/-!
# Pointers Lead where Paths Lead

A pointer holds the reference tokens of a path and nothing else: two paths of names and indices have
one pointer exactly if they have the same tokens. The token of an index is also the name of a
possible key, so that the tokens alone do not tell the path. In a document they do: at an object a
token is a name, at an array it is an index, and what stands at each place of the way is known.

## Main definitions

* `Leads` — a path of keys taken at objects and of indices taken at arrays, and where it leads.

## Main results

* `pointer_eq_iff` — the paths with the same pointer.
* `resolvePointer_pointer` — pointers of paths in a document lead where the paths lead, and no two
  paths have the same pointer.
-/

namespace JsonWorkbench

/-- A path leads from a value to another one, each of its keys being taken at an object and each of
its indices at an array. -/
inductive Leads : Value → Path → Value → Prop
  /-- The empty path leads to the value itself. -/
  | here (v : Value) : Leads v [] v
  /-- A key leads to the value of the member that has it. -/
  | key {ms : Members} {k : String} {v w : Value} {path : Path}
      (hget : Members.get? ms k = some v) (h : Leads v path w) :
      Leads (.object ms) (.key k :: path) w
  /-- An index leads to the item there. -/
  | index {vs : List Value} {i : Nat} {v w : Value} {path : Path}
      (hget : vs[i]? = some v) (h : Leads v path w) : Leads (.array vs) (.index i :: path) w

/-! ### Pointers and tokens -/

/-- **Two paths of names and indices have the same pointer** exactly if they have the same
reference tokens. -/
theorem pointer_eq_iff {p q : Path} (hp : ∀ s ∈ p, s.isLiteral = true)
    (hq : ∀ s ∈ q, s.isLiteral = true) :
    p.pointer = q.pointer ↔ p.map segmentToken = q.map segmentToken := by
  constructor
  · intro h
    have htokens := congrArg pointerTokens? h
    rwa [pointerTokens?_pointer hp, pointerTokens?_pointer hq, Option.some.injEq] at htokens
  · intro h
    have hlist : ∀ {p : Path}, (∀ s ∈ p, s.isLiteral = true) →
        p.pointer.toList = (p.map segmentToken).flatMap fun t => '/' :: escapeToken t.toList := by
      intro p hp
      induction p with
      | nil => simp [Path.pointer, segmentsPointer]
      | cons s p ih =>
          rw [List.forall_mem_cons] at hp
          rw [pointer_cons hp.1, ih hp.2]
          rfl
    exact String.toList_injective (by rw [hlist hp, hlist hq, h])

namespace Leads

variable {d v w : Value} {p q : Path}

/-- The segments on the way name one place each. -/
theorem isLiteral (h : Leads d p v) : ∀ s ∈ p, s.isLiteral = true := by
  induction h with
  | here => simp
  | key _ _ ih | index _ _ ih => exact List.forall_mem_cons.mpr ⟨rfl, ih⟩

/-- Following the path finds the value. -/
theorem locate_eq (h : Leads d p v) : locate d p = some v := by
  induction h with
  | here => rfl
  | key hget _ ih | index hget _ ih => rw [locate, step, hget, Option.bind_some, ih]

/-- Resolving the tokens of the path finds the value. -/
theorem resolve_eq (h : Leads d p v) : resolve (p.map segmentToken) d = some v := by
  induction h with
  | here => rfl
  | key hget _ ih => rw [List.map_cons, segmentToken, resolve, hget, Option.bind_some, ih]
  | index hget _ ih =>
      rw [List.map_cons, segmentToken, resolve, tokenIndex?_digitsOf, Option.bind_some, hget,
        Option.bind_some, ih]

/-- From one value, paths with the same tokens are the same path. -/
theorem eq_of_map_segmentToken_eq (hp : Leads d p v) (hq : Leads d q w)
    (h : p.map segmentToken = q.map segmentToken) : p = q := by
  induction hp generalizing q with
  | here => exact (List.map_eq_nil_iff.mp h.symm).symm
  | @key _ k _ _ _ hget _ ih =>
      cases hq with
      | here => exact absurd h (List.cons_ne_nil _ _)
      | @key _ k' _ _ path' hget' hq =>
          obtain ⟨hkey, hrest⟩ := List.cons.inj h
          obtain rfl : k = k' := hkey
          obtain rfl := Option.some.inj (hget.symm.trans hget')
          rw [ih hq hrest]
  | index hget _ ih =>
      cases hq with
      | here => exact absurd h (List.cons_ne_nil _ _)
      | index hget' hq =>
          obtain ⟨hindex, hrest⟩ := List.cons.inj h
          obtain rfl := digitsOf_injective (String.ofList_injective hindex)
          obtain rfl := Option.some.inj (hget.symm.trans hget')
          rw [ih hq hrest]

end Leads

/-! ### Documents -/

/-- **Pointers of paths in a document lead where the paths lead**: resolving the pointer finds the
value that following the path finds, and different paths have different pointers. -/
theorem resolvePointer_pointer (d : Value) :
    (∀ p v, Leads d p v → locate d p = some v ∧ resolvePointer p.pointer d = some v) ∧
      ∀ p q v w, Leads d p v → Leads d q w → p ≠ q → p.pointer ≠ q.pointer := by
  constructor
  · intro p v h
    refine ⟨h.locate_eq, ?_⟩
    rw [resolvePointer, pointerTokens?_pointer h.isLiteral, Option.bind_some, h.resolve_eq]
  · intro p q v w hp hq hne heq
    rw [pointer_eq_iff hp.isLiteral hq.isLiteral] at heq
    exact hne (hp.eq_of_map_segmentToken_eq hq heq)

/-- A document with an array, whose items have numerals, escapes and nothing at all for keys. -/
def crypticDocument : Value :=
  .object [("0", .array [.null, .object [("~1", .int 1), ("/", .int 2), ("", .object [("", .int 3)])]]),
    ("0/1", .bool true), ("~0", .bool false)]

/-- The path of an item's key that reads like an escape. -/
def crypticPath : Path := [.key "0", .index 1, .key "~1"]

/-- The path of the key that the escape stands for. -/
def slashPath : Path := [.key "0", .index 1, .key "/"]

/-- A key that reads like an escape is told from the key that the escape stands for. -/
theorem resolvePointer_pointer_crypticDocument :
    Leads crypticDocument crypticPath (.int 1) ∧ Leads crypticDocument slashPath (.int 2) ∧
      resolvePointer crypticPath.pointer crypticDocument = some (.int 1) ∧
      resolvePointer slashPath.pointer crypticDocument = some (.int 2) ∧
      crypticPath.pointer ≠ slashPath.pointer := by
  have hescape : Leads crypticDocument crypticPath (.int 1) :=
    .key rfl (.index rfl (.key rfl (.here _)))
  have hslash : Leads crypticDocument slashPath (.int 2) :=
    .key rfl (.index rfl (.key rfl (.here _)))
  obtain ⟨hresolve, hdistinct⟩ := resolvePointer_pointer crypticDocument
  exact ⟨hescape, hslash, (hresolve _ _ hescape).2, (hresolve _ _ hslash).2,
    hdistinct _ _ _ _ hescape hslash (by simp [crypticPath, slashPath])⟩

end JsonWorkbench
