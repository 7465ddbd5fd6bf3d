import JsonWorkbench.Proofs.Condition.Match

/-!
# Clauses and the Texts around them

A clause is read from its own text. The whole text of the condition comes with it only to be named
in errors: read within two texts, a clause gives the same result, or errors that differ in the name
of the condition and in nothing else.

What a text means is the set of items that satisfy the clause read from it. Of a list of clauses
that are all read, the meaning of "all of" and of "any of" is put together from the meanings of the
parts.

## Main definitions

* `readPiece` — a clause that joins no others.
* `Means` — a clause is read, and holds for certain items.

## Main results

* `readPiece_eq_mapError` — the whole text only is a name.
* `means_all`, `means_any` — what lists of clauses mean.
-/

namespace JsonWorkbench

/-! ### Errors -/

section Errors

variable {ε δ α β : Type}

/-- A result is not changed with the errors. -/
theorem mapError_ok (g : ε → δ) (a : α) : (Except.ok a : Except ε α).mapError g = .ok a := rfl

/-- An error is changed. -/
theorem mapError_error (g : ε → δ) (e : ε) :
    (Except.error e : Except ε α).mapError g = .error (g e) := rfl

/-- A change of the errors and a change of the results do not meet. -/
theorem mapError_map (g : ε → δ) (f : α → β) (x : Except ε α) :
    (x.map f).mapError g = (x.mapError g).map f := by
  cases x <;> rfl

/-- The kind of the errors does not bear on the segments that are read. -/
theorem PathText.readSegments_mapError {φ : Type} (g : ε → δ) (wrap : PathFault → ε)
    (readFilter : String → Except ε φ) (fuel : Nat) (cs : List Char) :
    readSegments (fun f => g (wrap f)) (fun s => (readFilter s).mapError g) fuel cs =
      (readSegments wrap readFilter fuel cs).mapError g := by
  fun_induction readSegments wrap readFilter fuel cs <;>
    simp only [readSegments, mapError_ok, mapError_error, mapError_map, *]

/-- The kind of the errors does not bear on the path that is read. -/
theorem PathText.parseSegments_mapError {φ : Type} (g : ε → δ) (wrap : PathFault → ε)
    (readFilter : String → Except ε φ) (text : String) :
    parseSegments (fun f => g (wrap f)) (fun s => (readFilter s).mapError g) text =
      (parseSegments wrap readFilter text).mapError g :=
  readSegments_mapError g wrap readFilter _ _

end Errors

namespace ConditionText

/-- An error that names another text as the condition. -/
def named (whole : String) : Error → Error
  | .invalidCondition _ fault => .invalidCondition (trimmed whole) fault
  | e => e

/-- The text of the path of a field: the field without the `@` and the dot at its start. -/
def fieldText (token : List Char) : List Char :=
  let token :=
    match token with
    | '@' :: rest => rest
    | _ => token
  match token with
  | '.' :: rest => rest
  | _ => token

/-- A field is the path of its text, if there is one. -/
theorem readField_eq (whole : String) (token : List Char) :
    readField whole token =
      if (fieldText token).isEmpty then .ok []
      else
        let wrap (f : PathFault) : Error :=
          .invalidCondition (trimmed whole) (.field (String.ofList (fieldText token)) f)
        PathText.parseSegments wrap (fun _ => .error (wrap .openFilter))
          (String.ofList (fieldText token)) := rfl

/-- Within another text a field is read the same, but for the name in errors. -/
theorem readField_eq_mapError (whole whole' : String) (token : List Char) :
    readField whole token = (readField whole' token).mapError (named whole) := by
  rw [readField_eq, readField_eq]
  split
  · rfl
  · rw [← PathText.parseSegments_mapError]
    rfl

/-- Within another text a pattern is read the same, but for the name in errors. -/
theorem readPattern_eq_mapError (whole whole' : String) (pattern flags : List Char) :
    readPattern whole pattern flags =
      (readPattern whole' pattern flags).mapError (named whole) := by
  unfold readPattern
  cases Regex.parse? (matchFlags flags) (String.ofList pattern) <;> rfl

/-- Within another text a match is read the same, but for the name in errors. -/
theorem readMatch?_eq_mapError (whole whole' : String) (cs : List Char) :
    readMatch? whole cs = (readMatch? whole' cs).map (·.mapError (named whole)) := by
  rw [readMatch?, readMatch?, Option.map_map]
  congr 1
  funext ⟨field, pattern, flags⟩
  dsimp only [Function.comp_apply]
  rw [readField_eq_mapError whole whole', readPattern_eq_mapError whole whole']
  cases readField whole' field with
  | error e => rfl
  | ok f => cases readPattern whole' pattern flags <;> rfl

/-- Within another text a comparison or a field is read the same, but for the name in errors. -/
theorem readSimple_eq_mapError (whole whole' : String) (cs : List Char) :
    readSimple whole cs = (readSimple whole' cs).mapError (named whole) := by
  unfold readSimple
  split
  · rw [mapError_map, ← readField_eq_mapError]
  · split
    · rw [mapError_map, ← readField_eq_mapError]
    · split
      · rw [mapError_map, ← readField_eq_mapError]
      · rfl

/-- A clause that joins no others. -/
def readPiece (whole : String) (cs : List Char) : Except Error Clause :=
  match readMatch? whole cs with
  | some result => result
  | none => readSimple whole cs

/-- **Within another text a clause is read the same**, but for the name in errors. -/
theorem readPiece_eq_mapError (whole whole' : String) (cs : List Char) :
    readPiece whole cs = (readPiece whole' cs).mapError (named whole) := by
  rw [readPiece, readPiece, readMatch?_eq_mapError whole whole']
  cases readMatch? whole' cs with
  | none => exact readSimple_eq_mapError whole whole' cs
  | some result => rfl

/-! ### Meanings -/

/-- A clause is read, and holds for the items of a class and for no others. -/
def Means (result : Except Error Clause) (P : Value → Prop) : Prop :=
  ∃ c, result = .ok c ∧ ∀ item, c.holds item = true ↔ P item

/-- A clause means the same within another text. -/
theorem Means.mapError {result : Except Error Clause} {P : Value → Prop} (h : Means result P)
    (g : Error → Error) : Means (result.mapError g) P := by
  obtain ⟨c, rfl, hc⟩ := h
  exact ⟨c, rfl, hc⟩

section Lists

variable {α : Type} {f : α → Except Error Clause} {P : α → Value → Prop}

/-- Of a list of clauses that are all read, all hold exactly where each of them does, and some holds
exactly where one of them does. -/
theorem exists_mapM {xs : List α} (h : ∀ x ∈ xs, Means (f x) (P x)) :
    ∃ cs, xs.mapM f = .ok cs ∧ ∀ item,
      (Clause.allHold item cs = true ↔ ∀ x ∈ xs, P x item) ∧
      (Clause.anyHolds item cs = true ↔ ∃ x ∈ xs, P x item) := by
  induction xs with
  | nil => exact ⟨[], rfl, by simp [Clause.allHold, Clause.anyHolds]⟩
  | cons x xs ih =>
      rw [List.forall_mem_cons] at h
      obtain ⟨c, hread, hc⟩ := h.1
      obtain ⟨cs, hreads, hcs⟩ := ih h.2
      refine ⟨c :: cs, by rw [List.mapM_cons, hread, hreads]; rfl, fun item => ⟨?_, ?_⟩⟩
      · rw [Clause.allHold, Bool.and_eq_true, hc, (hcs item).1, List.forall_mem_cons]
      · rw [Clause.anyHolds, Bool.or_eq_true, hc, (hcs item).2, List.exists_mem_cons_iff]

/-- "All of" some clauses means what all of them mean. -/
theorem means_all {xs : List α} (h : ∀ x ∈ xs, Means (f x) (P x)) :
    Means ((xs.mapM f).map .all) fun item => ∀ x ∈ xs, P x item := by
  obtain ⟨cs, hread, hcs⟩ := exists_mapM h
  exact ⟨.all cs, by rw [hread]; rfl, fun item => by rw [Clause.holds, (hcs item).1]⟩

/-- "Any of" some clauses means what one of them means. -/
theorem means_any {xs : List α} (h : ∀ x ∈ xs, Means (f x) (P x)) :
    Means ((xs.mapM f).map .any) fun item => ∃ x ∈ xs, P x item := by
  obtain ⟨cs, hread, hcs⟩ := exists_mapM h
  exact ⟨.any cs, by rw [hread]; rfl, fun item => by rw [Clause.holds, (hcs item).2]⟩

end Lists

end ConditionText

end JsonWorkbench
