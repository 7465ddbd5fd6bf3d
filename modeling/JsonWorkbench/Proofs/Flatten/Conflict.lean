import JsonWorkbench.Proofs.FlatKey
import JsonWorkbench.Proofs.Write.Frame

/-!
# Flat Keys That Meet

A flat object is made into a document entry by entry, and each entry is a write at the path of its
key. So what an entry has put in the document is there at the end unless a later one takes it away:
one whose path leads to the same place or to a container around it, as it puts its own value
there; or one whose path goes on from the place, if a null or a container stands there, as it puts
something into that (`Overwrites`). A path that goes on from a truth value, a number or a text is
an error, so these are only lost to keys of the first kind.

Which place a path leads to depends on the document into which it is written, as a numeral is an
index where there is an array.

## Main definitions

* `Overwrites` — what takes a value away from its place.

## Main results

* `unflatten_keeps` — an entry that no later one overwrites is found under the path of its key.
-/

namespace JsonWorkbench

variable {separator : String} {x : Value} {p q : Path} {d : Value}

/-! ### One write -/

/-- A write at a path takes a value away from its place: the place is the one that is written or is
inside of it, or what stands there is a null or a container, and the write goes on from it. -/
def Overwrites (x : Value) (p q : Path) (d : Value) : Prop :=
  location d q <+: location d p ∨
    (x = .null ∨ x.isContainer = true) ∧ location d p <+: location d q

/-- A path whose location goes on from that of another begins with a path to the same place. -/
theorem exists_front (hp : locate d p = some x) (h : location d p <+: location d q) :
    ∃ front rest, q = front ++ rest ∧ locate d front = some x ∧
      location d front = location d p := by
  induction p generalizing d q with
  | nil => exact ⟨[], q, rfl, hp, rfl⟩
  | cons t p ih =>
      obtain ⟨child, hstep, hchild⟩ := Option.bind_eq_some_iff.mp hp
      rcases q with - | ⟨s, q⟩
      · rw [location, location, List.prefix_nil] at h
        exact absurd h (List.cons_ne_nil _ _)
      rw [location_cons hstep] at h ⊢
      have hst : placeIn d t = placeIn d s := (List.cons_prefix_cons.mp h).1
      have hstep' := step_of_placeIn_eq hstep hst.symm
      rw [location_cons hstep', List.cons_prefix_cons] at h
      obtain ⟨front, rest, rfl, hfront, hlocation⟩ := ih hchild h.2
      refine ⟨s :: front, rest, rfl, ?_, ?_⟩
      · rw [locate, hstep', Option.bind_some, hfront]
      · rw [location_cons hstep', hst, hlocation]

/-- A write that goes on from a value succeeds only if it is a null or a container. -/
theorem null_or_isContainer {v c : Value} {front : Path} {s : Segment Condition} {rest : Path}
    (h : (writeAt v (front ++ s :: rest) d).fault = none) (hc : locate d front = some c) :
    c = .null ∨ c.isContainer = true := by
  induction front generalizing d with
  | nil =>
      obtain rfl : d = c := Option.some.inj hc
      obtain ⟨place, hslot, -⟩ := exists_slot_of_fault_eq_none h
      refine or_iff_not_imp_left.mpr fun hnull => ?_
      rw [openFor_of_ne hnull] at hslot
      obtain ⟨vs, i, rfl, -⟩ | ⟨ms, k, rfl, -⟩ := slot?_cases hslot <;> rfl
  | cons t front ih =>
      obtain ⟨child, hstep, hchild⟩ := Option.bind_eq_some_iff.mp hc
      exact ih (writeAt_of_placeIn_eq h hstep rfl).1 hchild

/-- **A value stays that a write does not overwrite.** -/
theorem locate_writeAt_of_not_overwrites {v : Value} (h : (writeAt v q d).fault = none)
    (hp : locate d p = some x) (hfree : ¬Overwrites x p q d) :
    locate (writeAt v q d).document p = some x := by
  obtain ⟨habove, hbelow⟩ := not_or.mp hfree
  refine locate_writeAt_of_apart h hp ⟨habove, fun hprefix => ?_⟩
  -- the write would go on from a truth value, a number or a text
  obtain ⟨front, rest, rfl, hfront, hlocation⟩ := exists_front hp hprefix
  rcases rest with - | ⟨s, rest⟩
  · rw [List.append_nil, hlocation] at habove
    exact habove List.prefix_rfl
  · exact hbelow ⟨null_or_isContainer h hfront, hprefix⟩

/-! ### All writes -/

/-- Writing some leaves and then others. -/
theorem writeLeaves_append (ls ls' : List (String × Value)) (d : Value) :
    writeLeaves separator (ls ++ ls') d =
      (writeLeaves separator ls d).bind (writeLeaves separator ls') := by
  induction ls generalizing d with
  | nil => rfl
  | cons l ls ih =>
      rw [List.cons_append, writeLeaves, writeLeaves]
      split
      · exact ih _
      · rfl

/-- Writing a leaf and then others: the first write succeeds, and the others go on from it. -/
theorem writeLeaves_cons_eq_ok_iff {k : String} {y : Value} {ls : List (String × Value)}
    {w : Value} : writeLeaves separator ((k, y) :: ls) d = .ok w ↔
      ∃ e, (splitFlatKey separator k).write y d = (e, none) ∧
        writeLeaves separator ls e = .ok w := by
  rw [writeLeaves]
  rcases (splitFlatKey separator k).write y d with ⟨e, - | error⟩ <;> simp

/-- **A value stays that no leaf overwrites.** -/
theorem locate_writeLeaves {later : List (String × Value)} {w : Value}
    (h : writeLeaves separator later d = .ok w) (hp : locate d p = some x)
    (hfree : ∀ front k y rest e, later = front ++ (k, y) :: rest →
      writeLeaves separator front d = .ok e → ¬Overwrites x p (splitFlatKey separator k) e) :
    locate w p = some x := by
  induction later generalizing d with
  | nil =>
      obtain rfl : d = w := Except.ok.inj h
      exact hp
  | cons leaf later ih =>
      obtain ⟨k, y⟩ := leaf
      obtain ⟨e, hwrite, h⟩ := writeLeaves_cons_eq_ok_iff.mp h
      obtain ⟨-, hfault, rfl⟩ := write_eq_none_iff.mp hwrite
      refine ih h (locate_writeAt_of_not_overwrites hfault hp (hfree [] k y later d rfl rfl)) ?_
      rintro front l z rest e' rfl he'
      exact hfree ((k, y) :: front) l z rest e' rfl
        (writeLeaves_cons_eq_ok_iff.mpr ⟨_, hwrite, he'⟩)

/-! ### Documents -/

/-- Making a document is writing all entries, unless the only key is the empty one; if nothing has
been written, it is an empty object. -/
theorem writeLeaves_of_unflatten {ms : Members} {r : Value}
    (h : unflatten separator (.object ms) = .ok r) (hroot : ∀ root, ms ≠ [("", root)]) :
    ∃ v, writeLeaves separator ms .null = .ok v ∧ (v = .null ∨ v = r) := by
  rw [unflatten] at h
  · cases hv : writeLeaves separator ms .null with
    | error e =>
        rw [hv] at h
        cases h
    | ok v =>
        rw [hv] at h
        refine ⟨v, rfl, or_iff_not_imp_left.mpr fun hnull => ?_⟩
        cases v with
        | null => exact absurd rfl hnull
        | bool _ | number _ | string _ | array _ | object _ => exact Except.ok.inj h
  · exact hroot

/-- No entry behind an entry of a flat object overwrites it, in the document into which that entry
is written. -/
def NotOverwritten (separator : String) (before : List (String × Value)) (k : String) (x : Value)
    (later : List (String × Value)) : Prop :=
  ∀ front l y rest d, later = front ++ (l, y) :: rest →
    writeLeaves separator (before ++ (k, x) :: front) .null = .ok d →
      ¬Overwrites x (splitFlatKey separator k) (splitFlatKey separator l) d

/-- **What is found of a flat object in its document.** The value of a lone empty key is the
document. Otherwise the entries are written one after another, no path goes on from a truth value,
a number or a text that an earlier entry has written, and every entry that no later one overwrites
is found under the path of its key. -/
theorem unflatten_keeps {ms : Members} {r : Value}
    (h : unflatten separator (.object ms) = .ok r) :
    (∀ root, ms = [("", root)] → r = root) ∧
      ((∀ root, ms ≠ [("", root)]) → ∀ before k x later, ms = before ++ (k, x) :: later →
        (∃ d, writeLeaves separator before .null = .ok d ∧
          ∀ front s rest c, splitFlatKey separator k = front ++ s :: rest →
            locate d front = some c → c = .null ∨ c.isContainer = true) ∧
        (NotOverwritten separator before k x later →
          locate r (splitFlatKey separator k) = some x)) := by
  constructor
  · rintro root rfl
    exact (Except.ok.inj h).symm
  · rintro hroot before k x later rfl
    obtain ⟨v, hv, hr⟩ := writeLeaves_of_unflatten h hroot
    rw [writeLeaves_append] at hv
    obtain ⟨d, hd, hrest⟩ : ∃ d, writeLeaves separator before .null = .ok d ∧
        writeLeaves separator ((k, x) :: later) d = .ok v := by
      cases hd : writeLeaves separator before .null with
      | error e =>
          rw [hd] at hv
          cases hv
      | ok d =>
          rw [hd] at hv
          exact ⟨d, rfl, hv⟩
    obtain ⟨e, hwrite, hlater⟩ := writeLeaves_cons_eq_ok_iff.mp hrest
    obtain ⟨-, hfault, rfl⟩ := write_eq_none_iff.mp hwrite
    refine ⟨⟨d, hd, ?_⟩, fun hfree => ?_⟩
    · intro front s rest c hpath hc
      rw [hpath] at hfault
      exact null_or_isContainer hfault hc
    · have hfound : locate v (splitFlatKey separator k) = some x := by
        refine locate_writeLeaves hlater (locate_writeAt hfault) ?_
        intro front l y rest d' heq hd'
        refine hfree front l y rest d' heq ?_
        rw [writeLeaves_append, hd]
        exact writeLeaves_cons_eq_ok_iff.mpr ⟨_, hwrite, hd'⟩
      -- the path has a segment, and so leads nowhere from a null
      rcases hr with rfl | rfl
      · obtain ⟨s, path, hpath⟩ := List.exists_cons_of_ne_nil (splitFlatKey_ne_nil separator k)
        rw [hpath] at hfound
        exact absurd hfound (Option.some_ne_none x).symm
      · exact hfound

/-- An item of a list, the null in front of it by a numeral, and a text beside the list. -/
def scatteredEntries : Members :=
  [("list[1]", .int 1), ("list.0", .null), ("note", .string "x")]

/-- The item is found at the end, though a later entry is in the same list. -/
theorem unflatten_keeps_scatteredEntries :
    unflatten "." (.object scatteredEntries) =
        .ok (.object [("list", .array [.null, .int 1]), ("note", .string "x")]) ∧
      locate (.object [("list", .array [.null, .int 1]), ("note", .string "x")])
        (splitFlatKey "." "list[1]") = some (.int 1) := by
  have hdoc : unflatten "." (.object scatteredEntries) =
      .ok (.object [("list", .array [.null, .int 1]), ("note", .string "x")]) := by rfl
  have hroot : ∀ root, scatteredEntries ≠ [("", root)] := by simp [scatteredEntries]
  have hlist : writeLeaves "." [("list[1]", .int 1)] .null =
      .ok (.object [("list", .array [.null, .int 1])]) := by rfl
  have hzero : location (.object [("list", .array [.null, .int 1])]) (splitFlatKey "." "list.0") =
      [.key "list", .index 0] := by rfl
  have hone : location (.object [("list", .array [.null, .int 1])]) (splitFlatKey "." "list[1]") =
      [.key "list", .index 1] := by rfl
  have hnote : location (.object [("list", .array [.null, .int 1])]) (splitFlatKey "." "note") =
      [.key "note"] := by rfl
  have hfree : NotOverwritten "." [] "list[1]" (.int 1)
      [("list.0", .null), ("note", .string "x")] := by
    rintro (- | ⟨entry, - | ⟨other, front⟩⟩) l y rest d heq hd
    · obtain ⟨hentry, -⟩ := List.cons.inj heq
      cases hentry
      obtain rfl := Except.ok.inj (hlist.symm.trans hd)
      rw [Overwrites, hzero, hone]
      simp [Value.int, Value.isContainer]
    · cases heq
      have hsame : writeLeaves "." [("list[1]", .int 1), ("list.0", .null)] .null =
          .ok (.object [("list", .array [.null, .int 1])]) := by rfl
      obtain rfl := Except.ok.inj (hsame.symm.trans hd)
      rw [Overwrites, hnote, hone]
      simp [Value.int, Value.isContainer]
    · simp at heq
  exact ⟨hdoc, ((unflatten_keeps hdoc).2 hroot [] "list[1]" (.int 1) _ rfl).2 hfree⟩

/-- An entry that is written under a path is lost when its parent is written behind it. -/
theorem not_forall_unflatten_keeps :
    ¬∀ (separator : String) (ms : Members) (r : Value), (ms.map (·.1)).Nodup →
      unflatten separator (.object ms) = .ok r → (∀ root, ms ≠ [("", root)]) →
        ∀ k x, (k, x) ∈ ms → locate r (splitFlatKey separator k) = some x := by
  intro h
  have hdoc : unflatten "." (.object [("a.b", .int 1), ("a", .int 2)]) =
      .ok (.object [("a", .int 2)]) := by rfl
  have hlost := h "." [("a.b", .int 1), ("a", .int 2)] _ (by decide) hdoc (by simp) "a.b" (.int 1)
    (List.mem_cons_self ..)
  have hpath : splitFlatKey "." "a.b" = [.key "a", .key "b"] := by rfl
  rw [hpath] at hlost
  exact absurd hlost (Option.some_ne_none _).symm

end JsonWorkbench
