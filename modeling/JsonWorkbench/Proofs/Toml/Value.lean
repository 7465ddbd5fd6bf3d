import JsonWorkbench.Proofs.Toml.Number
import JsonWorkbench.Proofs.Toml.Quoted
import JsonWorkbench.Proofs.Toml.Tree
import JsonWorkbench.Proofs.Value
import JsonWorkbench.Proofs.Within

/-!
# Reading TOML Values

A value on the line of its key is read back, whatever it is nested in, as long as there is room for
its brackets; otherwise reading fails for good. The induction is on the value. It carries what may
stand behind it, the fuel that its text is enough for, and both outcomes.

The items of an array and the members of a table in braces are read by one loop each, which takes
the comma before an item and asks whether there is one; `Lead` is what stands before an item at
the first round and at the later ones.

## Main definitions

* `Storable` — the values of TOML, doubles apart.
* `ReadsValue` — a text that is read as a value, whatever stands behind it.

## Main results

* `scanKey_dotted` — a key with dots is read if there are not too many.
* `readsValue_writeValue` — a value is read back from its text.
-/

namespace JsonWorkbench.Toml

open Value (nestingItems nestingMembers)

/-! ### Values -/

/-- The values that TOML has, other than doubles: without nulls, with integers of 63 bits and a
sign, and without repeated keys. -/
inductive Storable : Value → Prop
  /-- A truth value. -/
  | bool (b : Bool) : Storable (.bool b)
  /-- An integer. -/
  | int {n : Int} (hn : Number.least ≤ n ∧ n ≤ Number.greatestSigned) :
      Storable (.number (.integer n))
  /-- A text. -/
  | string (s : String) : Storable (.string s)
  /-- An array of such values. -/
  | array {vs : List Value} (h : ∀ v ∈ vs, Storable v) : Storable (.array vs)
  /-- An object of such values. -/
  | object {ms : Members} (hkeys : (ms.map (·.1)).Nodup) (h : ∀ k v, (k, v) ∈ ms → Storable v) :
      Storable (.object ms)

/-! ### Blanks -/

/-- A character that is skipped neither as a blank nor as a line end nor as a comment. -/
structure IsSolid (c : Char) : Prop where
  /-- It is no blank. -/
  blank : isBlank c = false
  /-- It opens no comment. -/
  comment : c ≠ '#'
  /-- It ends no line. -/
  feed : c ≠ '\n'
  /-- It does not begin a line end. -/
  carriage : c ≠ '\r'

/-- Blanks are skipped. -/
theorem skipBlanks_append {gap rest : List Char} (hgap : ∀ c ∈ gap, isBlank c = true)
    (hrest : Text.Stops isBlank rest) : skipBlanks (gap ++ rest) = rest := by
  have hspan := Text.span_append hgap hrest
  rw [List.span_eq_takeWhile_dropWhile] at hspan
  exact (Prod.mk.inj hspan).2

/-- Nothing is skipped where no blank stands. -/
theorem skipBlanks_of_stops {cs : List Char} (h : Text.Stops isBlank cs) : skipBlanks cs = cs :=
  skipBlanks_append (fun _ hc => absurd hc List.not_mem_nil) h

/-- Blanks before a character are skipped between the items of an array. -/
theorem skipGap_append {gap : List Char} (hgap : ∀ c ∈ gap, isBlank c = true) {c : Char}
    (hc : IsSolid c) (cs : List Char) : skipGap (gap ++ c :: cs) = .ok (c :: cs) := by
  have hcomment : (c == '#') = false := beq_eq_false_iff_ne.mpr hc.comment
  have hline : (c == '\n' || c == '\r') = false := by simp [hc.feed, hc.carriage]
  rw [skipGap, skipGapFrom, skipBlanks_append hgap (Text.stops_cons.mpr hc.blank)]
  simp only [hcomment, hline, Bool.false_eq_true, if_false]

/-- Nothing is skipped where an item or a bracket stands. -/
theorem skipGap_cons {c : Char} (hc : IsSolid c) (cs : List Char) :
    skipGap (c :: cs) = .ok (c :: cs) := by
  have hgap : ∀ x ∈ ([] : List Char), isBlank x = true := fun _ h => absurd h List.not_mem_nil
  exact skipGap_append hgap hc cs

/-! ### Keys -/

/-- The first character of a key is one of a name, or a quote. -/
theorem exists_writeKey (k : String) :
    ∃ c cs, writeKey k = c :: cs ∧ (isBareChar c = true ∨ c = '"' ∨ c = '\'') := by
  unfold writeKey
  dsimp only
  split_ifs with hbare
  · rw [Bool.and_eq_true, List.all_eq_true] at hbare
    rcases hk : k.toList with - | ⟨c, cs⟩
    · rw [hk] at hbare
      exact absurd hbare.1 (by decide)
    · rw [hk] at hbare
      exact ⟨c, cs, rfl, .inl (hbare.2 c (List.mem_cons_self ..))⟩
  · exact ⟨_, _, rfl, .inr (.inl rfl)⟩
  · exact ⟨_, _, rfl, .inr (.inr rfl)⟩
  · exact ⟨_, _, rfl, .inr (.inl rfl)⟩

/-- A character that no key begins with does not begin one. -/
theorem stops_writeKey {p : Char → Bool} (hbare : ∀ c, isBareChar c = true → p c = false)
    (hdouble : p '"' = false) (hsingle : p '\'' = false) (k : String) (rest : List Char) :
    Text.Stops p (writeKey k ++ rest) := by
  obtain ⟨c, cs, hk, hc⟩ := exists_writeKey k
  rw [hk, List.cons_append, Text.stops_cons]
  rcases hc with hc | rfl | rfl
  · exact hbare c hc
  · exact hdouble
  · exact hsingle

/-- No blank begins a key. -/
theorem skipBlanks_writeKey (k : String) (rest : List Char) :
    skipBlanks (writeKey k ++ rest) = writeKey k ++ rest := by
  refine skipBlanks_of_stops (stops_writeKey (fun c hc => ?_) rfl rfl k rest)
  cases hb : isBlank c with
  | false => rfl
  | true =>
      rw [isBlank, Bool.or_eq_true, beq_iff_eq, beq_iff_eq] at hb
      rcases hb with rfl | rfl <;> exact absurd hc (by decide)

/-- Keys, each behind a dot. -/
def dotted (ks : List String) : List Char := ks.flatMap fun k => '.' :: writeKey k

/-- Every key has its dot. -/
theorem length_le_dotted (ks : List String) : ks.length ≤ (dotted ks).length := by
  induction ks with
  | nil => exact Nat.le_refl 0
  | cons k ks ih =>
      simp only [dotted, List.flatMap_cons, List.length_append, List.length_cons] at ih ⊢
      omega

/-- Further keys behind dots are read. -/
theorem scanDotted_dotted (ks : List String) {rest : List Char}
    (hbare : Text.Stops isBareChar rest) (hdot : Text.Stops (· == '.') (skipBlanks rest))
    {fuel : Nat} (hfuel : ks.length ≤ fuel) :
    scanDotted fuel (skipBlanks (dotted ks ++ rest)) = .ok (ks, skipBlanks rest) := by
  induction ks generalizing fuel with
  | nil =>
      have hnone : dotted [] ++ rest = rest := rfl
      rw [hnone]
      cases fuel with
      | zero => rfl
      | succ fuel =>
          unfold scanDotted
          split
          · next heq =>
              rw [heq, Text.stops_cons, beq_self_eq_true] at hdot
              exact absurd hdot.symm Bool.false_ne_true
          · rfl
  | cons k ks ih =>
      obtain ⟨n, rfl⟩ : ∃ n, fuel = n + 1 := ⟨fuel - 1, by rw [List.length_cons] at hfuel; omega⟩
      have hcons : dotted (k :: ks) ++ rest = '.' :: (writeKey k ++ (dotted ks ++ rest)) := by
        simp only [dotted, List.flatMap_cons, List.cons_append, List.append_assoc]
      have hkey :
          scanSimpleKey (writeKey k ++ (dotted ks ++ rest)) = .ok (k, dotted ks ++ rest) := by
        refine scanSimpleKey_writeKey k ?_
        rcases ks with - | ⟨k', ks⟩
        · exact hbare
        · exact Text.stops_cons.mpr rfl
      have hmore := ih (Nat.le_of_succ_le_succ hfuel)
      rw [hcons, skipBlanks_of_stops (Text.stops_cons.mpr rfl)]
      simp only [scanDotted, skipBlanks_writeKey, hkey, hmore]
      rfl

/-- **A key with dots is read** if it has not too many parts; otherwise another reading is tried. -/
theorem scanKey_dotted (k : String) (ks : List String) {gap rest : List Char}
    (hgap : ∀ c ∈ gap, isBlank c = true) (hbare : Text.Stops isBareChar rest)
    (hdot : Text.Stops (· == '.') (skipBlanks rest)) :
    scanKey (gap ++ (writeKey k ++ (dotted ks ++ rest))) =
      if ks.length + 1 ≤ maxDepth then .ok (k :: ks, skipBlanks rest)
      else soft (gap ++ (writeKey k ++ (dotted ks ++ rest))) := by
  have hskip : skipBlanks (gap ++ (writeKey k ++ (dotted ks ++ rest))) =
      writeKey k ++ (dotted ks ++ rest) := by
    rw [skipBlanks, List.dropWhile_append_of_pos hgap]
    exact skipBlanks_writeKey k _
  have hkey : scanSimpleKey (writeKey k ++ (dotted ks ++ rest)) = .ok (k, dotted ks ++ rest) := by
    refine scanSimpleKey_writeKey k ?_
    rcases ks with - | ⟨k', ks⟩
    · exact hbare
    · exact Text.stops_cons.mpr rfl
  have hfuel : ks.length ≤ (dotted ks ++ rest).length := by
    rw [List.length_append]
    exact Nat.le_trans (length_le_dotted ks) (Nat.le_add_right _ _)
  rw [scanKey, hskip, hkey]
  simp only [bind, Except.bind, scanDotted_dotted ks hbare hdot hfuel, List.length_cons]
  rfl

/-! ### Scalars -/

/-- A failure after which nothing else is tried. -/
def IsFinal (f : Failure) : Prop := f.isFinal = true

/-- A text that is read as a value, whatever stands behind it. -/
structure ReadsValue (cs : List Char) (v : Value) : Prop where
  /-- The text begins neither with what is skipped nor with a closing bracket. -/
  first : ∃ c more, cs = c :: more ∧ IsSolid c ∧ c ≠ ']'
  /-- Reading takes exactly the text, if there is room for its brackets. -/
  within : ∀ {fuel room : Nat} {rest : List Char}, 3 * cs.length ≤ fuel → EndsValue rest →
    Within IsFinal room (v, rest) v.nesting (scanValue fuel room (cs ++ rest))

/-- A value without brackets is read. -/
theorem readsValue_of_scanScalar {cs : List Char} {v : Value} (hv : v.nesting = 0)
    (hfirst : ∃ c more, cs = c :: more ∧ IsSolid c ∧ c ≠ ']' ∧ c ≠ '[' ∧ c ≠ '{')
    (h : ∀ rest, EndsValue rest → scanScalar (cs ++ rest) = .ok (v, rest)) : ReadsValue cs v := by
  obtain ⟨c, more, rfl, hsolid, hclose, hopen, hbrace⟩ := hfirst
  refine ⟨⟨c, more, rfl, hsolid, hclose⟩, fun {fuel room rest} hfuel hend => ?_⟩
  obtain ⟨n, rfl⟩ : ∃ n, fuel = n + 1 :=
    ⟨fuel - 1, by rw [List.length_cons] at hfuel; omega⟩
  have hscan : scanValue (n + 1) room (c :: (more ++ rest)) = scanScalar (c :: (more ++ rest)) := by
    unfold scanValue
    split
    · next heq => exact absurd (List.cons.inj heq).1 hopen
    · next heq => exact absurd (List.cons.inj heq).1 hbrace
    · rfl
  rw [List.cons_append, hscan, ← List.cons_append, h rest hend, hv]
  exact .fits (Nat.zero_le room)

/-- A text begins with a quote. -/
theorem exists_writeString (cs : List Char) :
    ∃ c more, writeString cs = c :: more ∧ (c = '"' ∨ c = '\'') := by
  unfold writeString
  dsimp only
  split_ifs
  · exact ⟨_, _, rfl, .inl rfl⟩
  · exact ⟨_, _, rfl, .inr rfl⟩
  · exact ⟨_, _, rfl, .inl rfl⟩
  · exact ⟨_, _, rfl, .inr rfl⟩
  · exact ⟨_, _, rfl, .inl rfl⟩
  · exact ⟨_, _, rfl, .inl rfl⟩

/-- Texts are read. -/
theorem readsValue_string (s : String) : ReadsValue (writeValue (.string s)) (.string s) := by
  obtain ⟨c, more, hwrite, hc⟩ := exists_writeString s.toList
  have hvalue : writeValue (.string s) = writeString s.toList := by rw [writeValue]
  refine readsValue_of_scanScalar rfl ⟨c, more, hvalue.trans hwrite, ?_⟩ fun rest hend => ?_
  · rcases hc with rfl | rfl <;> exact ⟨⟨rfl, by decide, by decide, by decide⟩, by decide⟩
  · have hquote : (c == '"' || c == '\'') = true := by
      rcases hc with rfl | rfl <;> rfl
    have hscan : scanString (writeString s.toList ++ rest) = .ok (s.toList, rest) :=
      scanString_writeString s.toList (hend.stops rfl rfl rfl rfl) (hend.stops rfl rfl rfl rfl)
    rw [hvalue]
    rw [hwrite, List.cons_append] at hscan ⊢
    rw [scanScalar, if_pos hquote, hscan]
    simp only [Except.map, String.ofList_toList]

/-- Integers are read. -/
theorem readsValue_integer {n : Int} (hn : Number.least ≤ n ∧ n ≤ Number.greatestSigned) :
    ReadsValue (writeValue (.number (.integer n))) (.number (.integer n)) := by
  have hvalue : writeValue (.number (.integer n)) = (toString n).toList := by rw [writeValue]
  obtain ⟨c, more, hwrite⟩ := List.exists_cons_of_ne_nil (toString_ne_nil n)
  have hc : c.isDigit = true ∨ c = '-' :=
    isDigit_or_eq_of_mem_toString (n := n) (by rw [hwrite]; exact List.mem_cons_self ..)
  have hne {d : Char} (hd : d.isDigit = false ∧ d ≠ '-') : c ≠ d := by
    rintro rfl
    rcases hc with hdigit | hminus
    · rw [hd.1] at hdigit
      exact Bool.false_ne_true hdigit
    · exact hd.2 hminus
  have hblank : isBlank c = false := by
    rw [isBlank, Bool.or_eq_false_iff, beq_eq_false_iff_ne, beq_eq_false_iff_ne]
    exact ⟨hne (by decide), hne (by decide)⟩
  have hsolid : IsSolid c := ⟨hblank, hne (by decide), hne (by decide), hne (by decide)⟩
  refine readsValue_of_scanScalar rfl ⟨c, more, hvalue.trans hwrite, hsolid, hne (by decide),
    hne (by decide), hne (by decide)⟩ fun rest hend => ?_
  have hscan := scanNumeric_toString hn hend
  have hquote : (c == '"' || c == '\'') = false := by
    rw [Bool.or_eq_false_iff, beq_eq_false_iff_ne, beq_eq_false_iff_ne]
    exact ⟨hne (by decide), hne (by decide)⟩
  have hnumeral : (c == '+' || c == '-' || c.isDigit) = true := by
    rcases hc with hdigit | rfl
    · rw [hdigit, Bool.or_true]
    · rfl
  rw [hvalue]
  rw [hwrite, List.cons_append] at hscan ⊢
  simp only [scanScalar, hquote, hnumeral, Bool.false_eq_true, if_false, if_true, hscan]
  rfl

/-! ### Lists -/

/-- What stands before a part of a list: blanks before the first one, and a comma before them later
on. -/
inductive Lead : Bool → List Char → List Char → Prop
  /-- Before the first part. -/
  | first (gap : List Char) (hgap : ∀ c ∈ gap, isBlank c = true) : Lead true gap gap
  /-- Before another one. -/
  | further (gap : List Char) (hgap : ∀ c ∈ gap, isBlank c = true) : Lead false (',' :: gap) gap

/-- Behind the comma stand blanks only. -/
theorem Lead.gap {first : Bool} {lead gap : List Char} (h : Lead first lead gap) :
    ∀ c ∈ gap, isBlank c = true := by
  cases h with
  | first gap hgap => exact hgap
  | further gap hgap => exact hgap

/-- The comma and the blank between two parts. -/
theorem lead_further : Lead false [',', ' '] [' '] :=
  .further [' '] fun c hc => by rw [List.mem_singleton.mp hc]; rfl

/-- The parts of a list, the first of them behind `lead`. -/
def listText (lead : List Char) : List (List Char) → List Char
  | [] => []
  | text :: texts => lead ++ (text ++ listText [',', ' '] texts)

/-- Commas stand between the parts. -/
theorem append_commaSeparated (lead : List Char) {texts : List (List Char)} (h : texts ≠ []) :
    lead ++ commaSeparated texts = listText lead texts := by
  induction texts generalizing lead with
  | nil => exact absurd rfl h
  | cons text texts ih =>
      rcases texts with - | ⟨other, others⟩
      · rw [commaSeparated, listText, listText, List.append_nil]
      · rw [listText, ← ih [',', ' '] (List.cons_ne_nil other others)]
        rfl

/-- What may stand behind an item or a member that others follow. -/
theorem endsValue_listText (texts : List (List Char)) {rest : List Char} (h : EndsValue rest) :
    EndsValue (listText [',', ' '] texts ++ rest) := by
  rcases texts with - | ⟨text, texts⟩
  · exact h
  · intro c hc
    exact .inr (.inl (Option.some.inj hc).symm)

/-- What comes of a reading that may be given up for another result, unless it fails for good. -/
def recover {α β : Type} (other : Except Failure β) (next : α → Except Failure β) :
    Except Failure α → Except Failure β
  | .error f => if f.isFinal then .error f else other
  | .ok a => next a

/-- A failure for good is not given up. -/
theorem recover_eq_bind {α β : Type} {r : Except Failure α} (h : ∀ f, r = .error f → IsFinal f)
    (other : Except Failure β) (next : α → Except Failure β) :
    recover other next r = r.bind next := by
  cases r with
  | error f => exact if_pos (h f rfl)
  | ok a => rfl

/-- Whatever fails within limited room fails for good. -/
theorem isFinal_of_within {α : Type} {room n : Nat} {a : α} {r : Except Failure α}
    (h : Within IsFinal room a n r) (f : Failure) (hr : r = .error f) : IsFinal f := by
  cases h with
  | fits _ => exact nomatch hr
  | tooDeep _ hf => exact Except.error.inj hr ▸ hf

/-! ### Arrays -/

/-- The items are written one by one. -/
theorem writeItems_eq_map (vs : List Value) : writeItems vs = vs.map writeValue := by
  induction vs with
  | nil => rw [writeItems, List.map_nil]
  | cons v vs ih => rw [writeItems, ih, List.map_cons]

/-- An item is read behind what stands before it, then the others; where none can be read, the items
end there. -/
theorem scanItems_lead {first : Bool} {lead gap : List Char} (hlead : Lead first lead gap)
    (fuel room : Nat) (cs : List Char) :
    scanItems (fuel + 1) room first (lead ++ cs) =
      recover (.ok ([], lead ++ cs))
        (fun (v, behind) =>
          (scanItems fuel room false behind).map fun (vs, last) => (v :: vs, last))
        (scanItem fuel room (gap ++ cs)) := by
  cases hlead with
  | first gap hgap =>
      conv_lhs => unfold scanItems
      simp only [if_true]
      cases scanItem fuel room (lead ++ cs) <;> rfl
  | further gap hgap =>
      conv_lhs => unfold scanItems
      simp only [List.cons_append, Bool.false_eq_true, if_false]
      cases scanItem fuel room (gap ++ cs) <;> rfl

/-- The closing bracket and the comma are not skipped. -/
theorem isSolid_close : IsSolid ']' := ⟨rfl, by decide, by decide, by decide⟩

/-- An item is read with the blanks before it; behind it stands a comma or the closing bracket. -/
theorem within_scanItem {text : List Char} {v : Value} (h : ReadsValue text v) {gap : List Char}
    (hgap : ∀ c ∈ gap, isBlank c = true) {fuel room : Nat} (hfuel : 3 * text.length ≤ fuel)
    {c : Char} (hc : c = ',' ∨ c = ']') (rest : List Char) :
    Within IsFinal room (v, c :: rest) v.nesting
      (scanItem (fuel + 1) room (gap ++ (text ++ c :: rest))) := by
  obtain ⟨d, more, rfl, hsolid, -⟩ := h.first
  have hend : EndsValue (c :: rest) := by
    intro x hx
    rw [← Option.some.inj hx]
    exact .inr (hc.imp_right .inl)
  have hbehind : skipGap (c :: rest) = .ok (c :: rest) := by
    refine skipGap_cons ?_ rest
    rcases hc with rfl | rfl
    · exact ⟨rfl, by decide, by decide, by decide⟩
    · exact isSolid_close
  have hvalue : Within IsFinal room (v, c :: rest) v.nesting
      (scanValue fuel room (d :: more ++ c :: rest)) := h.within hfuel hend
  rw [List.cons_append, scanItem, skipGap_append hgap hsolid]
  simp only
  rw [← List.cons_append]
  generalize scanValue fuel room (d :: more ++ c :: rest) = r at hvalue
  cases hvalue with
  | tooDeep hroom hf => exact .tooDeep hroom hf
  | fits hroom =>
      simp only [hbehind]
      exact .fits hroom

/-- **The items of an array are read**, up to the closing bracket. -/
theorem within_scanItems {vs : List Value} (h : ∀ v ∈ vs, ReadsValue (writeValue v) v)
    {first : Bool} {lead gap : List Char} (hlead : Lead first lead gap)
    (hvs : first = true → vs ≠ []) {fuel room : Nat}
    (hfuel : 3 * (listText lead (vs.map writeValue)).length + 2 ≤ fuel) (rest : List Char) :
    Within IsFinal room (vs, ']' :: rest) (nestingItems vs)
      (scanItems fuel room first (listText lead (vs.map writeValue) ++ ']' :: rest)) := by
  induction vs generalizing first lead gap fuel with
  | nil =>
      obtain ⟨n, rfl⟩ := Nat.exists_eq_add_of_le' hfuel
      cases first with
      | true => exact absurd rfl (hvs rfl)
      | false => exact .fits (Nat.zero_le room)
  | cons v vs ih =>
      rw [List.forall_mem_cons] at h
      obtain ⟨d, more, hd, -, -⟩ := h.1.first
      have hpos : 0 < (writeValue v).length := by rw [hd]; exact Nat.succ_pos _
      simp only [List.map_cons, listText, List.length_append] at hfuel
      obtain ⟨n, rfl⟩ : ∃ n, fuel = n + 2 := ⟨fuel - 2, by omega⟩
      have hitemFuel : 3 * (writeValue v).length ≤ n := by omega
      have hfurtherFuel : 3 * (listText [',', ' '] (vs.map writeValue)).length + 2 ≤ n + 1 := by
        omega
      -- the comma of the next item, or the closing bracket
      obtain ⟨c, behind, hbehind, hc⟩ : ∃ c behind,
          listText [',', ' '] (vs.map writeValue) ++ ']' :: rest = c :: behind ∧
            (c = ',' ∨ c = ']') := by
        rcases vs with - | ⟨w, ws⟩
        · exact ⟨_, _, rfl, .inr rfl⟩
        · exact ⟨_, _, rfl, .inl rfl⟩
      have hitem : Within IsFinal room (v, c :: behind) v.nesting
          (scanItem (n + 1) room (gap ++ (writeValue v ++ c :: behind))) :=
        within_scanItem h.1 hlead.gap hitemFuel hc behind
      have hothers := (ih h.2 lead_further (fun heq => absurd heq Bool.false_ne_true)
        hfurtherFuel).map fun (ws, last) => (v :: ws, last)
      have hcons : scanItems (n + 2) room first
          (listText lead ((v :: vs).map writeValue) ++ ']' :: rest) =
            (scanItem (n + 1) room (gap ++ (writeValue v ++ c :: behind))).bind
              fun (w, b) =>
                (scanItems (n + 1) room false b).map fun (ws, last) => (w :: ws, last) := by
        simp only [List.map_cons, listText, List.append_assoc, hbehind]
        rw [scanItems_lead hlead, recover_eq_bind (isFinal_of_within hitem)]
      rw [hcons]
      refine hitem.bind ?_
      rw [← hbehind]
      exact hothers

/-- Before a closing bracket, no comma is sought. -/
theorem closeArray_bracket (items : List Value) (rest : List Char) :
    closeArray items (']' :: rest) =
      match skipGap (']' :: rest) with
      | .error f => .error { f with isFinal := true }
      | .ok (']' :: behind) => .ok (.array items, behind)
      | .ok last => final last := by
  cases items <;> rfl

/-- An array is closed behind its last item. -/
theorem closeArray_close (items : List Value) (rest : List Char) :
    closeArray items (']' :: rest) = .ok (.array items, rest) := by
  rw [closeArray_bracket, skipGap_cons isSolid_close]
  rfl

/-- The items of an array stand behind its bracket. -/
theorem scanValue_bracket (fuel room : Nat) {c : Char} (hc : c ≠ ']') (cs : List Char) :
    scanValue (fuel + 1) (room + 1) ('[' :: c :: cs) =
      (scanItems fuel room true (c :: cs)).bind fun (items, behind) => closeArray items behind := by
  conv_lhs => unfold scanValue
  simp only
  split
  · next heq => exact absurd (List.cons.inj heq).1 hc
  · cases scanItems fuel room true (c :: cs) <;> rfl

/-- **An array is read** if its items are. -/
theorem readsValue_array {vs : List Value} (h : ∀ v ∈ vs, ReadsValue (writeValue v) v) :
    ReadsValue (writeValue (.array vs)) (.array vs) := by
  have hsolid : IsSolid '[' := ⟨rfl, by decide, by decide, by decide⟩
  rw [writeValue]
  refine ⟨⟨_, _, rfl, hsolid, by decide⟩, fun {fuel room rest} hfuel hend => ?_⟩
  obtain ⟨n, rfl⟩ : ∃ n, fuel = n + 1 :=
    ⟨fuel - 1, by rw [List.length_cons] at hfuel; omega⟩
  rw [List.cons_append, List.append_assoc, List.singleton_append, Value.nesting]
  rcases room with - | room
  · exact .tooDeep (Nat.succ_pos _) rfl
  · refine Within.opened ?_
    rcases vs with - | ⟨v, vs⟩
    · exact .fits (Nat.zero_le room)
    · have htext :
          commaSeparated (writeItems (v :: vs)) = listText [] ((v :: vs).map writeValue) := by
        rw [writeItems_eq_map, List.map_cons, ← append_commaSeparated [] (List.cons_ne_nil _ _),
          List.nil_append]
      rw [htext, List.length_cons, List.length_append] at hfuel
      have hlead : Lead true [] [] := .first [] fun _ h => absurd h List.not_mem_nil
      have hitemsFuel : 3 * (listText [] ((v :: vs).map writeValue)).length + 2 ≤ n := by omega
      have hitems : Within IsFinal room (v :: vs, ']' :: rest) (nestingItems (v :: vs))
          (scanItems n room true (listText [] ((v :: vs).map writeValue) ++ ']' :: rest)) :=
        within_scanItems h hlead (fun _ => List.cons_ne_nil v vs) hitemsFuel rest
      have hclosed : Within IsFinal room (Value.array (v :: vs), rest) 0
          (closeArray (v :: vs) (']' :: rest)) :=
        closeArray_close (v :: vs) rest ▸ .fits (Nat.zero_le room)
      obtain ⟨d, more, hd, -, hclose⟩ := (h v (List.mem_cons_self ..)).first
      have hscan : scanValue (n + 1) (room + 1)
          ('[' :: (listText [] ((v :: vs).map writeValue) ++ ']' :: rest)) =
            (scanItems n room true (listText [] ((v :: vs).map writeValue) ++ ']' :: rest)).bind
              fun (items, behind) => closeArray items behind := by
        simp only [List.map_cons, listText, hd, List.nil_append, List.cons_append]
        exact scanValue_bracket n room hclose _
      rw [htext, hscan, ← Nat.max_zero (nestingItems (v :: vs))]
      exact hitems.bind hclosed

/-! ### Tables in braces -/

/-- A member of a table in braces. -/
def memberText (m : String × Value) : List Char :=
  writeKey m.1 ++ ' ' :: '=' :: ' ' :: writeValue m.2

/-- A member has more characters than its value. -/
theorem length_lt_memberText (m : String × Value) :
    (writeValue m.2).length < (memberText m).length := by
  rw [memberText, List.length_append, List.length_cons, List.length_cons, List.length_cons]
  omega

/-- The members are written one by one. -/
theorem writeMembers_eq_map (ms : Members) : writeMembers ms = ms.map memberText := by
  induction ms with
  | nil => rw [writeMembers, List.map_nil]
  | cons m ms ih => rw [writeMembers, ih, List.map_cons]; rfl

/-- A key before its equals sign is read. -/
theorem scanKey_assigned (k : String) {gap : List Char} (hgap : ∀ c ∈ gap, isBlank c = true)
    (cs : List Char) :
    scanKey (gap ++ (writeKey k ++ ' ' :: '=' :: cs)) = .ok ([k], '=' :: cs) := by
  have hscan := scanKey_dotted k [] hgap (Text.stops_cons.mpr rfl : Text.Stops isBareChar
    (' ' :: '=' :: cs)) (Text.stops_cons.mpr rfl)
  exact hscan.trans (if_pos (by decide))

/-- A member is read behind what stands before it, then the others. -/
theorem scanPairs_lead {first : Bool} {lead gap : List Char} (hlead : Lead first lead gap)
    (fuel room : Nat) (k : String) (cs : List Char) :
    scanPairs (fuel + 1) room first (lead ++ (writeKey k ++ ' ' :: '=' :: cs)) =
      (committed (scanValue fuel room (skipBlanks cs))).bind fun (v, behind) =>
        (scanPairs fuel room false (skipBlanks behind)).map fun (pairs, last) =>
          (([k], v) :: pairs, last) := by
  have hkey := scanKey_assigned k hlead.gap cs
  cases hlead with
  | first gap hgap =>
      conv_lhs => unfold scanPairs
      simp only [if_true, hkey]
      cases scanValue fuel room (skipBlanks cs) <;> rfl
  | further gap hgap =>
      conv_lhs => unfold scanPairs
      simp only [List.cons_append, Bool.false_eq_true, if_false, hkey]
      cases scanValue fuel room (skipBlanks cs) <;> rfl

/-- A member is read, if the others are. -/
theorem within_scanPairs_cons {m : String × Value} (h : ReadsValue (writeValue m.2) m.2)
    {first : Bool} {lead gap : List Char} (hlead : Lead first lead gap) {fuel room n : Nat}
    (hfuel : 3 * (writeValue m.2).length ≤ fuel) {behind last : List Char}
    (hend : EndsValue behind) {pairs : List (List String × Value)}
    (hothers : Within IsFinal room (pairs, last) n
      (scanPairs fuel room false (skipBlanks behind))) :
    Within IsFinal room (([m.1], m.2) :: pairs, last) (max m.2.nesting n)
      (scanPairs (fuel + 1) room first (lead ++ (memberText m ++ behind))) := by
  obtain ⟨c, more, hc, hsolid, -⟩ := h.first
  have hskip : skipBlanks (' ' :: (writeValue m.2 ++ behind)) = writeValue m.2 ++ behind := by
    rw [hc, List.cons_append]
    exact skipBlanks_append lead_further.gap (Text.stops_cons.mpr hsolid.blank)
  have hvalue : Within IsFinal room (m.2, behind) m.2.nesting
      (committed (scanValue fuel room (writeValue m.2 ++ behind))) :=
    (h.within hfuel hend).mapError fun _ _ => rfl
  have htext : memberText m ++ behind =
      writeKey m.1 ++ ' ' :: '=' :: (' ' :: (writeValue m.2 ++ behind)) := by
    simp only [memberText, List.append_assoc, List.cons_append]
  rw [htext, scanPairs_lead hlead, hskip]
  exact hvalue.bind (hothers.map fun (pairs, last) => (([m.1], m.2) :: pairs, last))

/-- **The members of a table in braces are read**, up to the closing brace. -/
theorem within_scanPairs {m : String × Value} {ms : Members}
    (h : ∀ m' ∈ m :: ms, ReadsValue (writeValue m'.2) m'.2) {first : Bool} {lead gap : List Char}
    (hlead : Lead first lead gap) {fuel room : Nat}
    (hfuel : 3 * (listText lead ((m :: ms).map memberText)).length ≤ fuel) (rest : List Char) :
    Within IsFinal room ((m :: ms).map fun m' => ([m'.1], m'.2), '}' :: rest)
      (nestingMembers (m :: ms))
      (scanPairs fuel room first
        (listText lead ((m :: ms).map memberText) ++ ' ' :: '}' :: rest)) := by
  have hclose : EndsValue (' ' :: '}' :: rest) := by
    intro c hc
    exact .inr (.inr (.inr (Option.some.inj hc).symm))
  induction ms generalizing m first lead gap fuel with
  | nil =>
      obtain ⟨k, v⟩ := m
      have hlong := length_lt_memberText (k, v)
      rw [List.forall_mem_singleton] at h
      simp only [List.map_singleton, listText, List.append_nil, List.length_append] at hfuel
      obtain ⟨n, rfl⟩ : ∃ n, fuel = n + 2 := ⟨fuel - 2, by omega⟩
      have hnone : Within IsFinal room (([] : List (List String × Value)), '}' :: rest) 0
          (scanPairs (n + 1) room false (skipBlanks (' ' :: '}' :: rest))) :=
        .fits (Nat.zero_le room)
      have hmember := within_scanPairs_cons h hlead (by omega) hclose hnone
      simpa only [List.map_singleton, listText, List.append_nil, List.append_assoc,
        nestingMembers] using hmember
  | cons m' ms ih =>
      obtain ⟨k, v⟩ := m
      have hlong := length_lt_memberText (k, v)
      rw [List.forall_mem_cons] at h
      rw [List.map_cons, listText, List.length_append, List.length_append] at hfuel
      obtain ⟨n, rfl⟩ : ∃ n, fuel = n + 1 := ⟨fuel - 1, by omega⟩
      have hfurther : 3 * (listText [',', ' '] ((m' :: ms).map memberText)).length ≤ n := by omega
      -- no blank stands before the comma of the next member
      have hskip :
          skipBlanks (listText [',', ' '] ((m' :: ms).map memberText) ++ ' ' :: '}' :: rest) =
            listText [',', ' '] ((m' :: ms).map memberText) ++ ' ' :: '}' :: rest :=
        skipBlanks_of_stops (Text.stops_cons.mpr rfl)
      have hothers := ih h.2 lead_further hfurther
      rw [← hskip] at hothers
      have hmember := within_scanPairs_cons h.1 hlead (by omega)
        (endsValue_listText ((m' :: ms).map memberText) hclose) hothers
      have hsplit : listText lead (((k, v) :: m' :: ms).map memberText) =
          lead ++ (memberText (k, v) ++ listText [',', ' '] ((m' :: ms).map memberText)) := rfl
      rw [hsplit, List.append_assoc, List.append_assoc]
      exact hmember

/-- The values under different keys are put together in order. -/
theorem foldlM_put? {ms : Members} (es : Entries)
    (hnew : (es.map (·.1) ++ ms.map (·.1)).Nodup) :
    (ms.map fun m => ([m.1], m.2)).foldlM
        (fun es (path, v) => path.getLast?.bind fun key => put? key v path.dropLast true es) es =
      some (es ++ ms.map fun m => (m.1, .leaf m.2)) := by
  induction ms generalizing es with
  | nil => simp
  | cons m ms ih =>
      have hnot : m.1 ∉ es.map (·.1) := fun hmem =>
        List.disjoint_of_nodup_append hnew hmem (List.mem_cons_self ..)
      have hfirst : put? m.1 m.2 [] true es = some (es ++ [(m.1, .leaf m.2)]) := by
        rw [put?, if_pos rfl]
        exact added_of_not_mem hnot (.leaf m.2)
      have hmore := ih (es ++ [(m.1, .leaf m.2)]) (by simpa using hnew)
      rw [List.append_assoc, List.singleton_append] at hmore
      simp only [List.map_cons, List.foldlM_cons, List.getLast?_singleton,
        List.dropLast_singleton, Option.bind_some, hfirst]
      exact hmore

/-- A table with values only has them as its members. -/
theorem entriesValue_leaves (ms : Members) :
    entriesValue (ms.map fun m => (m.1, .leaf m.2)) = ms := by
  induction ms with
  | nil => rfl
  | cons m ms ih =>
      rw [List.map_cons, entriesValue, ih]
      rfl

/-- A table in braces whose members have been read; `start` is the text behind its brace. -/
def closeTable (start : List Char) :
    List (List String × Value) × List Char → Except Failure (Value × List Char)
  | (pairs, behind) =>
    match entriesOf? pairs, skipBlanks behind with
    | none, _ => final start
    | some es, '}' :: last => .ok (.object (entriesValue es), last)
    | some _, last => final last

/-- The members of a table stand behind its brace. -/
theorem within_scanValue_brace {fuel room n : Nat} {cs rest : List Char} {ms : Members}
    (hkeys : (ms.map (·.1)).Nodup)
    (h : Within IsFinal room (ms.map fun m => ([m.1], m.2), '}' :: rest) n
      (scanPairs fuel room true cs)) :
    Within IsFinal (room + 1) (.object ms, rest) (n + 1)
      (scanValue (fuel + 1) (room + 1) ('{' :: cs)) := by
  have hentries : entriesOf? (ms.map fun m => ([m.1], m.2)) =
      some (ms.map fun m => (m.1, .leaf m.2)) := by
    rw [entriesOf?, foldlM_put? [] (by simpa using hkeys), List.nil_append]
  have hskip : skipBlanks ('}' :: rest) = '}' :: rest :=
    skipBlanks_of_stops (Text.stops_cons.mpr rfl)
  have hfinish : closeTable cs (ms.map fun m => ([m.1], m.2), '}' :: rest) =
      .ok (.object ms, rest) := by
    simp only [closeTable, hentries, hskip, entriesValue_leaves]
  have hscan : scanValue (fuel + 1) (room + 1) ('{' :: cs) =
      (scanPairs fuel room true cs).bind (closeTable cs) := by
    conv_lhs => unfold scanValue
    simp only
    cases scanPairs fuel room true cs <;> rfl
  rw [hscan, ← Nat.max_zero n]
  exact (h.bind (hfinish ▸ .fits (Nat.zero_le room))).opened

/-- **A table in braces is read** if its members are. -/
theorem readsValue_object {ms : Members} (hkeys : (ms.map (·.1)).Nodup)
    (h : ∀ m ∈ ms, ReadsValue (writeValue m.2) m.2) :
    ReadsValue (writeValue (.object ms)) (.object ms) := by
  have hsolid : IsSolid '{' := ⟨rfl, by decide, by decide, by decide⟩
  rcases ms with - | ⟨m, ms⟩
  · rw [writeValue]
    refine ⟨⟨_, _, rfl, hsolid, by decide⟩, fun {fuel room rest} hfuel hend => ?_⟩
    obtain ⟨n, rfl⟩ : ∃ n, fuel = n + 2 := ⟨fuel - 2, by simp at hfuel; omega⟩
    rcases room with - | room
    · exact .tooDeep (Nat.succ_pos _) rfl
    · exact within_scanValue_brace hkeys (.fits (Nat.zero_le room))
  · have htext : ' ' :: commaSeparated (writeMembers (m :: ms)) =
        listText [' '] ((m :: ms).map memberText) := by
      rw [writeMembers_eq_map]
      exact append_commaSeparated [' '] (List.cons_ne_nil _ _)
    have hlead : Lead true [' '] [' '] := .first [' '] lead_further.gap
    rw [writeValue]
    refine ⟨⟨_, _, rfl, hsolid, by decide⟩, fun {fuel room rest} hfuel hend => ?_⟩
    rw [← List.cons_append, htext] at hfuel ⊢
    rw [List.length_cons, List.length_append] at hfuel
    obtain ⟨n, rfl⟩ : ∃ n, fuel = n + 1 := ⟨fuel - 1, by omega⟩
    have hpairsFuel : 3 * (listText [' '] ((m :: ms).map memberText)).length ≤ n := by omega
    rcases room with - | room
    · exact .tooDeep (Nat.succ_pos _) rfl
    · have hpairs : Within IsFinal room _ _ _ := within_scanPairs h hlead hpairsFuel rest
      rw [List.cons_append, List.append_assoc]
      exact within_scanValue_brace hkeys hpairs

end JsonWorkbench.Toml
