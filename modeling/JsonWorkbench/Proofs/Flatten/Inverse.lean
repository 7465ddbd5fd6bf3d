import JsonWorkbench.Proofs.Flatten

/-!
# Flattening With Any Separator

A document is made again from its flat object as soon as each flat key is read as the path that it
was made of: then no two leaves have one key, and the leaves are written where they come from
(`KeysReadBack.unflatten_flatten_eq`). There is one exception, as the empty key alone stands for the
root: an object whose only member is a leaf under the empty key is made into this leaf.

So the law is one about texts. It holds for separators that have brackets or digits, for names with
brackets, and for empty names, as long as each flat key is legible.

## Main results

* `unflatten_flatten_of_legible` — a document with legible flat keys is made again.
-/

namespace JsonWorkbench

variable {separator : String} {v : Value}

/-- The empty flat key stands for an empty name. -/
theorem splitFlatKey_empty (separator : String) : splitFlatKey separator "" = [.key ""] := by
  rw [splitFlatKey]
  split <;> rfl

/-- The empty key occurs alone only in the flat object of an object with a single leaf, which has
the empty name. -/
theorem eq_object_of_map_flatLeaf_eq (hv : v.WellFormed) (h : KeysReadBack separator v)
    (hcontainer : (∃ w vs, v = .array (w :: vs)) ∨ ∃ m ms, v = .object (m :: ms)) {x : Value}
    (hone : (leafPaths v).map (flatLeaf separator "") = [("", x)]) : v = .object [("", x)] := by
  obtain ⟨leaf, hleaf, hflat⟩ := List.map_eq_singleton_iff.mp hone
  obtain ⟨p, y⟩ := leaf
  obtain ⟨hkey, rfl⟩ := Prod.mk.inj hflat
  have hmem : (p, y) ∈ leafPaths v := by simp [hleaf]
  have hp : splitFlatKey separator (flatKey separator "" p) = p :=
    h _ hmem (path_ne_nil_of_mem_leafPaths hcontainer hmem)
  rw [hkey, splitFlatKey_empty] at hp
  have hwrite := writePaths_leafPaths hv
  rw [hleaf, ← hp] at hwrite
  exact (Option.some.inj hwrite).symm

/-- **A document whose flat keys are read back is made again from its flat object**, unless it is an
object whose only member has the empty name. -/
theorem KeysReadBack.unflatten_flatten_eq (h : KeysReadBack separator v) (hv : v.WellFormed)
    (hroot : ∀ x, v ≠ .object [("", x)]) : unflatten separator (flatten separator v) = .ok v := by
  rw [h.flatten_eq hv]
  rcases leafPaths_cases v with hleaf | hcontainer
  · rw [hleaf]
    rfl
  have hwrite := writeLeaves_map_flatLeaf
    (fun leaf hmem => h leaf hmem (path_ne_nil_of_mem_leafPaths hcontainer hmem))
    (writePaths_leafPaths hv)
  rw [unflatten]
  · rw [hwrite]
    rcases hcontainer with ⟨w, vs, rfl⟩ | ⟨m, ms, rfl⟩ <;> rfl
  · exact fun x hone => hroot x (eq_object_of_map_flatLeaf_eq hv h hcontainer hone)

/-- **Flattening is undone** for every document whose flat keys are legible, unless it is an object
whose only member has the empty name. -/
theorem unflatten_flatten_of_legible (hv : v.WellFormed)
    (hlegible : ∀ leaf ∈ leafPaths v, LegiblePath separator.toList leaf.1)
    (hroot : ∀ x, v ≠ .object [("", x)]) : unflatten separator (flatten separator v) = .ok v :=
  KeysReadBack.unflatten_flatten_eq (fun leaf hmem hne =>
    (hlegible leaf hmem).splitFlatKey_flatKey hne (index_lt_of_mem_leafPaths hv hmem)) hv hroot

/-- Names with brackets, an empty name, and a name that ends as the separator begins. -/
def bracketedNames : Value :=
  .object [("a-", .object [("[x]", .array [.bool true, .object [("", .null)]])]), ("b]", .int 1)]

/-- The document with such names is made again. -/
theorem unflatten_flatten_of_legible_bracketedNames :
    (bracketedNames.WellFormed ∧
      ∀ leaf ∈ leafPaths bracketedNames, LegiblePath "->".toList leaf.1) ∧
      unflatten "->" (flatten "->" bracketedNames) = .ok bracketedNames := by
  have hv : bracketedNames.WellFormed := by decide
  have hlegible : ∀ leaf ∈ leafPaths bracketedNames, LegiblePath "->".toList leaf.1 := by
    simp only [bracketedNames, leafPaths, itemPaths, memberPaths, under, List.map_cons,
      List.map_nil, List.append_nil, List.cons_append, List.nil_append, Value.int,
      List.forall_mem_cons]
    decide
  exact ⟨⟨hv, hlegible⟩, unflatten_flatten_of_legible hv hlegible (by simp [bracketedNames])⟩

/-- A name that looks like one with an index is made into a list, though it shares nothing with the
separator. -/
theorem not_forall_unflatten_flatten :
    ¬∀ (separator : String) (v : Value), v.WellFormed → separator ≠ "" →
      v.KeysSatisfy (fun k => ¬separator.toList <:+: k.toList) →
      (∀ leaf ∈ leafPaths v, leaf.2.isContainer = false) →
        unflatten separator (flatten separator v) = .ok v := by
  intro h
  have hlist : unflatten "." (flatten "." (.object [("a[0]", .int 1)])) =
      .ok (.object [("a", .array [.int 1])]) := by rfl
  have hsame := h "." (.object [("a[0]", .int 1)])
    (by decide) (by decide) (by decide)
    (by simp [leafPaths, memberPaths, under, Value.int, Value.isContainer])
  have heq := Except.ok.inj (hlist.symm.trans hsame)
  simp at heq

end JsonWorkbench
