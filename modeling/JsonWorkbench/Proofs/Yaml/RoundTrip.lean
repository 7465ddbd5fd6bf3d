import JsonWorkbench.Proofs.Yaml.Printed
import JsonWorkbench.Proofs.Yaml.Reader
import JsonWorkbench.Yaml
import Mathlib

/-!
# Writing and Reading Back

A value whose numbers are integers is read back from its text, but for two things. The line feeds
at the end of a text are taken away with the others at the end of the document if that text comes
last and is written as a block; and a document of which every line looks as if it said nothing is
taken for an empty object. Containers that are nested too deep are not read at all.

## Main definitions

* `losesFeeds` — whether the last text of a value loses its line feeds.

## Main results

* `decode_encode` — what is read back.
* `decode_encode_iff` — the values that are read back as they are.
-/

namespace JsonWorkbench.Yaml

/-! ### The value without the line feeds -/

/-- What holds for all items, with and without the line feeds, holds for those that are read. -/
theorem forall_mem_itemsWithoutLastFeeds {p : Value → Prop} {vs : List Value}
    (h : ∀ v ∈ vs, p v ∧ p (withoutLastFeeds v)) : ∀ v ∈ itemsWithoutLastFeeds vs, p v := by
  induction vs with
  | nil => simp [itemsWithoutLastFeeds]
  | cons v vs ih =>
      rw [List.forall_mem_cons] at h
      rcases vs with - | ⟨w, vs⟩
      · simpa [itemsWithoutLastFeeds] using h.1.2
      · rw [itemsWithoutLastFeeds, List.forall_mem_cons]
        exact ⟨h.1.1, ih h.2⟩

/-- What holds for all values of members, with and without the line feeds, holds for those that are
read. -/
theorem forall_mem_membersWithoutLastFeeds {p : Value → Prop} {ms : Members}
    (h : ∀ k v, (k, v) ∈ ms → p v ∧ p (withoutLastFeeds v)) :
    ∀ k v, (k, v) ∈ membersWithoutLastFeeds ms → p v := by
  induction ms with
  | nil => simp [membersWithoutLastFeeds]
  | cons m ms ih =>
      obtain ⟨k, v⟩ := m
      rw [Keyed.forall_mem_cons] at h
      rcases ms with - | ⟨n, ms⟩
      · simpa [membersWithoutLastFeeds] using h.1.2
      · rw [membersWithoutLastFeeds, Keyed.forall_mem_cons]
        exact ⟨h.1.1, ih h.2⟩

/-- There are as many items as before. -/
theorem length_itemsWithoutLastFeeds (vs : List Value) :
    (itemsWithoutLastFeeds vs).length = vs.length := by
  induction vs with
  | nil => rfl
  | cons v vs ih =>
      rcases vs with - | ⟨w, vs⟩
      · rfl
      · rw [itemsWithoutLastFeeds, List.length_cons, ih]
        rfl

/-- The keys are those from before. -/
theorem keys_membersWithoutLastFeeds (ms : Members) :
    (membersWithoutLastFeeds ms).map (·.1) = ms.map (·.1) := by
  induction ms with
  | nil => rfl
  | cons m ms ih =>
      obtain ⟨k, v⟩ := m
      rcases ms with - | ⟨n, ms⟩
      · rfl
      · rw [membersWithoutLastFeeds, List.map_cons, ih]
        rfl

/-- The numbers stay integers. -/
theorem isIntegral_withoutLastFeeds {v : Value} (hv : v.IsIntegral) :
    (withoutLastFeeds v).IsIntegral := by
  induction v using Value.induct with
  | null => exact hv
  | bool b => exact hv
  | number n => exact hv
  | string s => exact hv
  | array vs ih =>
      rw [Value.isIntegral_array_iff] at hv
      rw [withoutLastFeeds, Value.isIntegral_array_iff]
      exact forall_mem_itemsWithoutLastFeeds fun v hmem => ⟨hv v hmem, ih v hmem (hv v hmem)⟩
  | object ms ih =>
      rw [Value.isIntegral_object_iff] at hv
      rw [withoutLastFeeds, Value.isIntegral_object_iff]
      exact forall_mem_membersWithoutLastFeeds fun k v hmem =>
        ⟨hv k v hmem, ih k v hmem (hv k v hmem)⟩

/-- The value stays well formed. -/
theorem wellFormed_withoutLastFeeds {v : Value} (hv : v.WellFormed) :
    (withoutLastFeeds v).WellFormed := by
  induction v using Value.induct with
  | null => exact hv
  | bool b => exact hv
  | number n => exact hv
  | string s => exact hv
  | array vs ih =>
      rw [Value.wellFormed_array_iff] at hv
      rw [withoutLastFeeds, Value.wellFormed_array_iff, length_itemsWithoutLastFeeds]
      exact ⟨hv.1, forall_mem_itemsWithoutLastFeeds fun v hmem =>
        ⟨hv.2 v hmem, ih v hmem (hv.2 v hmem)⟩⟩
  | object ms ih =>
      rw [Value.wellFormed_object_iff] at hv
      rw [withoutLastFeeds, Value.wellFormed_object_iff, keys_membersWithoutLastFeeds]
      exact ⟨hv.1, forall_mem_membersWithoutLastFeeds fun k v hmem =>
        ⟨hv.2 k v hmem, ih k v hmem (hv.2 k v hmem)⟩⟩

/-- The value is nested no deeper than before. -/
theorem nesting_withoutLastFeeds_le {v : Value} {n : Nat} (hv : v.nesting ≤ n) :
    (withoutLastFeeds v).nesting ≤ n := by
  induction v using Value.induct generalizing n with
  | null => exact hv
  | bool b => exact hv
  | number n => exact hv
  | string s => exact hv
  | array vs ih =>
      rcases n with - | n
      · rw [Value.nesting] at hv
        omega
      · rw [Value.nesting, Nat.succ_le_succ_iff, Value.nestingItems_le_iff] at hv
        rw [withoutLastFeeds, Value.nesting, Nat.succ_le_succ_iff, Value.nestingItems_le_iff]
        exact forall_mem_itemsWithoutLastFeeds fun v hmem => ⟨hv v hmem, ih v hmem (hv v hmem)⟩
  | object ms ih =>
      rcases n with - | n
      · rw [Value.nesting] at hv
        omega
      · rw [Value.nesting, Nat.succ_le_succ_iff, Value.nestingMembers_le_iff] at hv
        rw [withoutLastFeeds, Value.nesting, Nat.succ_le_succ_iff, Value.nestingMembers_le_iff]
        exact forall_mem_membersWithoutLastFeeds fun k v hmem =>
          ⟨hv k v hmem, ih k v hmem (hv k v hmem)⟩

/-! ### The values that lose line feeds -/

mutual

/-- Whether the last text of a value is written as a block and ends in a line feed. -/
def losesFeeds : Value → Bool
  | .string s => styleOf s.toList = .literal && s.toList.getLast? == some '\n'
  | .array vs => itemsLoseFeeds vs
  | .object ms => membersLoseFeeds ms
  | _ => false

/-- Whether the last item loses line feeds. -/
def itemsLoseFeeds : List Value → Bool
  | [] => false
  | [v] => losesFeeds v
  | _ :: w :: vs => itemsLoseFeeds (w :: vs)

/-- Whether the value of the last member loses line feeds. -/
def membersLoseFeeds : List (String × Value) → Bool
  | [] => false
  | [(_, v)] => losesFeeds v
  | _ :: n :: ms => membersLoseFeeds (n :: ms)

end

/-- A text is all there without the line feeds at its end exactly if it ends in none. -/
theorem dropEndWhile_feeds_eq_iff (cs : List Char) :
    Text.dropEndWhile (· == '\n') cs = cs ↔ cs.getLast? ≠ some '\n' := by
  induction cs using List.reverseRecOn with
  | nil => simp [Text.dropEndWhile]
  | append_singleton cs c =>
      rw [List.getLast?_concat]
      by_cases hc : c = '\n'
      · subst hc
        have hfeed : ∀ d ∈ ['\n'], (d == '\n') = true := by simp
        have hdrop := Text.dropEndWhile_append_of_forall hfeed cs
        obtain ⟨feeds, hfeeds, -⟩ := Text.exists_dropEndWhile (· == '\n') cs
        have hlength := congrArg List.length hfeeds
        rw [List.length_append] at hlength
        simp only [hdrop, ne_eq, not_true_eq_false, iff_false]
        intro heq
        rw [heq, List.length_append, List.length_singleton] at hlength
        omega
      · have hkeep := Text.dropEndWhile_concat (p := (· == '\n')) (by simpa using hc) cs
        simp [hkeep, hc]

/-- **A value is all there** without the line feeds at the end of its last block exactly if it loses
none. -/
theorem withoutLastFeeds_eq_iff (v : Value) : withoutLastFeeds v = v ↔ losesFeeds v = false := by
  induction v using Value.induct with
  | null => simp [withoutLastFeeds, losesFeeds]
  | bool b => simp [withoutLastFeeds, losesFeeds]
  | number n => simp [withoutLastFeeds, losesFeeds]
  | string s =>
      have hsame : ∀ cs : List Char, String.ofList cs = s ↔ cs = s.toList := by
        refine fun cs => ⟨?_, ?_⟩ <;> rintro rfl
        · rw [String.toList_ofList]
        · rw [String.ofList_toList]
      rw [withoutLastFeeds, losesFeeds, textBehind, Value.string.injEq, hsame]
      split
      · next hstyle => simp [hstyle, dropEndWhile_feeds_eq_iff]
      · next hstyle => simp [hstyle]
  | array vs ih =>
      rw [withoutLastFeeds, losesFeeds, Value.array.injEq]
      induction vs with
      | nil => simp [itemsWithoutLastFeeds, itemsLoseFeeds]
      | cons v vs ihs =>
          rw [List.forall_mem_cons] at ih
          rcases vs with - | ⟨w, vs⟩
          · simpa [itemsWithoutLastFeeds, itemsLoseFeeds] using ih.1
          · simpa [itemsWithoutLastFeeds, itemsLoseFeeds] using ihs ih.2
  | object ms ih =>
      rw [withoutLastFeeds, losesFeeds, Value.object.injEq]
      induction ms with
      | nil => simp [membersWithoutLastFeeds, membersLoseFeeds]
      | cons m ms ihs =>
          obtain ⟨k, v⟩ := m
          rw [Keyed.forall_mem_cons] at ih
          rcases ms with - | ⟨n, ms⟩
          · simpa [membersWithoutLastFeeds, membersLoseFeeds] using ih.1
          · simpa [membersWithoutLastFeeds, membersLoseFeeds] using ihs ih.2

/-! ### Reading back -/

/-- A value that is not nested too deep is read from its text, without the line feeds at the end of
its last block. -/
theorem read_write {v : Value} (hv : v.IsIntegral) (hwell : v.WellFormed)
    (hdeep : v.nesting ≤ maxNesting) :
    read (Text.dropEndWhile (· == '\n') (write v)) = .ok (withoutLastFeeds v) := by
  obtain ⟨tokens, hscan, htokens⟩ := scan_write hv
  obtain ⟨events, hfirst, hsays⟩ := first_of_nodeTokens htokens 1
  have hvalue := value_of_says (isIntegral_withoutLastFeeds hv) (wellFormed_withoutLastFeeds hwell)
    (nesting_withoutLastFeeds_le hdeep) hsays
  rw [read, hscan]
  simp only [Option.getD_none, hfirst, hvalue]

/-- **What is read back** from the text of a value that is not nested too deep. -/
theorem decode_encode {v : Value} (hv : v.IsIntegral) (hwell : v.WellFormed)
    (hdeep : v.nesting ≤ maxNesting) :
    decode (encode v) =
      .ok (if isSilent (encode v).toList then .emptyObject else withoutLastFeeds v) := by
  rw [decode]
  split
  · rfl
  · rw [encode, String.toList_ofList, read_write hv hwell hdeep]
    rfl

/-- **The values that are read back as they are**: those that are not nested too deep, lose no line
feeds at their end, and have a text that says something. -/
theorem decode_encode_iff {v : Value} (hv : v.IsIntegral) (hwell : v.WellFormed) :
    decode (encode v) = .ok v ↔
      v.nesting ≤ maxNesting ∧ losesFeeds v = false ∧ isSilent (encode v).toList = false := by
  constructor
  · intro h
    cases hsilent : isSilent (encode v).toList with
    | true =>
        -- an empty object has a text that says something
        rw [decode, if_pos hsilent] at h
        rw [← Except.ok.inj h] at hsilent
        exact absurd hsilent (by decide)
    | false =>
        have hread : read (encode v).toList = .ok v := by
          rw [decode, hsilent, if_neg Bool.false_ne_true] at h
          cases hresult : read (encode v).toList with
          | error fault =>
              rw [hresult] at h
              cases h
          | ok w =>
              rw [hresult] at h
              exact congrArg Except.ok (Except.ok.inj h)
        have hdeep : v.nesting ≤ maxNesting := nesting_le_of_value hread
        rw [decode_encode hv hwell hdeep, hsilent, if_neg Bool.false_ne_true] at h
        exact ⟨hdeep, (withoutLastFeeds_eq_iff v).mp (Except.ok.inj h), rfl⟩
  · rintro ⟨hdeep, hfeeds, hsilent⟩
    rw [decode_encode hv hwell hdeep, hsilent, if_neg Bool.false_ne_true,
      (withoutLastFeeds_eq_iff v).mpr hfeeds]

/-- A text with line feeds at its end is read back where another value comes behind it. -/
theorem decode_encode_innerBlock :
    decode (encode (.object [("text", .string "a\n\n"), ("list", .array [.null, .int (-3)])])) =
      .ok (.object [("text", .string "a\n\n"), ("list", .array [.null, .int (-3)])]) :=
  (decode_encode_iff (by decide) (by decide)).mpr ⟨by decide, by decide, by decide⟩

/-- Not every value that is read from its whole text is read back from the text of its document: the
line feed at the end of a last text is lost. -/
theorem not_forall_decode_encode :
    ¬ ∀ v : Value, v.IsIntegral → v.WellFormed → read (write v) = .ok v →
      decode (encode v) = .ok v := by
  intro h
  have hread : read (write (.string "a\n")) = .ok (.string "a\n") := by cbv
  have hintegral : (Value.string "a\n").IsIntegral := trivial
  have hlost := decode_encode hintegral trivial (Nat.zero_le maxNesting)
  rw [if_neg (by decide), h _ hintegral trivial hread] at hlost
  exact absurd (Value.string.inj (Except.ok.inj hlost)) (by decide)

end JsonWorkbench.Yaml
