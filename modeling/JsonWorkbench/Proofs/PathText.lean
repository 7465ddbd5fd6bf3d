import JsonWorkbench.Path
import JsonWorkbench.Proofs.Numeral
import Mathlib.Data.List.Basic

/-!
# Paths by their Texts

The text of a path of keys and indices is read segment by segment: a plain key behind its dot up
to the next dot or bracket, an index and a quoted key up to the end of their brackets. What stands
behind a segment always begins with a dot or a bracket, so that no name runs on into it.

A quoted key is read up to the first quote. In the text of a path a backslash stands before every
quote of a key, but in reading it hides nothing, so that the path is read back exactly if no key
has a quote. Otherwise the first such key is cut behind the backslash: what is read, if anything,
has a key there that ends in the backslash.

## Main definitions

* `Segment.IsPlace` — the segments that lead to one place.
* `Segment.QuoteFree` — the segments without a quote.

## Main results

* `parse_text_iff` — which paths are read back from their texts.
* `not_forall_parse_text` — a path that is not read back.
-/

namespace JsonWorkbench

/-- A segment that leads to one place: a key, or an index of 64 bits. -/
def Segment.IsPlace : Segment φ → Prop
  | .key _ => True
  | .index i => i < Value.lengthBound
  | _ => False

/-- A segment has no quote in its key. -/
def Segment.QuoteFree : Segment φ → Prop
  | .key k => '\'' ∉ k.toList
  | _ => True

/-- A result is mapped to a result. -/
theorem map_eq_ok_iff {ε α β : Type} {x : Except ε α} {f : α → β} {b : β} :
    x.map f = .ok b ↔ ∃ a, x = .ok a ∧ f a = b := by
  cases x <;> simp [Except.map]

/-- There is a result exactly if there is no error. -/
theorem isOk_iff {ε α : Type} {x : Except ε α} : x.isOk = true ↔ ∃ a, x = .ok a := by
  cases x <;> simp [Except.isOk, Except.toBool]

namespace PathText

variable {ε φ : Type} (wrap : PathFault → ε) (readFilter : String → Except ε φ)
  (source : φ → String)

/-! ### Names -/

/-- A text ends, or begins with a dot or an opening bracket. -/
def EndsName (cs : List Char) : Prop := Text.Stops (fun c => !(c == '.' || c == '[')) cs

/-- A name reaches up to where it ends. -/
theorem spanName_append {name rest : List Char} (hname : ∀ c ∈ name, c ≠ '.' ∧ c ≠ '[')
    (hrest : EndsName rest) : spanName (name ++ rest) = (name, rest) :=
  Text.span_append (fun c hc => by simp [hname c hc]) hrest

section Names

variable {c : Char} {name rest : List Char} (hname : ∀ d ∈ c :: name, d ≠ '.' ∧ d ≠ '[')
  (hrest : EndsName rest) (fuel : Nat)

include hname hrest

/-- A name behind a dot is a key. -/
theorem readSegments_dot :
    readSegments wrap readFilter (fuel + 1) ('.' :: (c :: name ++ rest)) =
      (readSegments wrap readFilter fuel rest).map (.key (String.ofList (c :: name)) :: ·) := by
  have hc : c ≠ '.' := (hname c (List.mem_cons_self ..)).1
  have hspan := spanName_append hname hrest
  rw [readSegments, hspan]
  exact fun _ heq => hc (List.cons.inj heq).1

/-- A name at the start of a text is a key. -/
theorem readSegments_name :
    readSegments wrap readFilter (fuel + 1) (c :: name ++ rest) =
      (readSegments wrap readFilter fuel rest).map (.key (String.ofList (c :: name)) :: ·) := by
  obtain ⟨hdot, hbracket⟩ := hname c (List.mem_cons_self ..)
  have hspan := spanName_append hname hrest
  rw [List.cons_append] at hspan ⊢
  rw [readSegments, hspan]
  all_goals grind

end Names

/-! ### Brackets -/

/-- A bracket that opens no filter is read as one. -/
theorem readSegments_bracket {body : List Char} (hbody : body.head? ≠ some '?') (fuel : Nat) :
    readSegments wrap readFilter (fuel + 1) ('[' :: body) =
      match readBracket body with
      | .error e => .error (wrap e)
      | .ok (s, behind) => (readSegments wrap readFilter fuel behind).map (s :: ·) := by
  have hfilter : ∀ rest, body = '?' :: '(' :: rest → False := by
    rintro rest rfl
    exact hbody rfl
  simp only [readSegments] <;> rfl

/-- Digits are no blanks. -/
theorem isBlank_of_mem_digitsOf {i : Nat} {c : Char} (h : c ∈ digitsOf i) :
    Text.isBlank c = false := by
  have hpos : ¬(i : Int) < 0 := by omega
  refine isBlank_of_mem_toString (n := i) ?_
  rwa [toList_toString_int, if_neg hpos, List.nil_append, Int.natAbs_natCast]

/-- A number in brackets is an index. -/
theorem readBracket_digitsOf {i : Nat} (hi : i < Value.lengthBound) (rest : List Char) :
    readBracket (φ := φ) (digitsOf i ++ ']' :: rest) = .ok (.index i, rest) := by
  have hfree : ∀ c, c.isDigit = false → ∀ d ∈ digitsOf i, (d != c) = true := by
    intro c hc d hd
    rw [bne_iff_ne]
    rintro rfl
    rw [isDigit_of_mem_digitsOf hd] at hc
    exact Bool.noConfusion hc
  have hclose : (digitsOf i ++ ']' :: rest).span (· != ']') = (digitsOf i, ']' :: rest) :=
    Text.span_append (hfree ']' rfl) (Text.stops_cons.mpr rfl)
  have hcolon : (digitsOf i).span (· != ':') = (digitsOf i, []) := by
    simpa using Text.span_append (hfree ':' rfl) (Text.stops_nil _)
  have htrim : Text.trim (digitsOf i) = digitsOf i :=
    Text.trim_of_forall_not fun c hc => isBlank_of_mem_digitsOf hc
  have hstar : digitsOf i ≠ ['*'] := digitsOf_ne_cons rfl i []
  have hplain : readPlain (φ := φ) (digitsOf i) = .ok (.index i) := by
    rw [readPlain, htrim, if_neg hstar, hcolon, readIndex?_digitsOf hi]
  obtain ⟨d, ds, hdigits⟩ := List.exists_cons_of_ne_nil (digitsOf_ne_nil i)
  have hd : d ∈ digitsOf i := by simp [hdigits]
  have hquote : (d == '\'' || d == '"') = false := by
    simpa using And.intro (by simpa using hfree '\'' rfl d hd) (by simpa using hfree '"' rfl d hd)
  rw [hdigits, List.cons_append] at hclose ⊢
  rw [hdigits] at hplain
  simp only [readBracket, hquote, hclose, hplain, Bool.false_eq_true, if_false]
  rfl

/-- A key in quotes reaches up to the first quote. -/
theorem span_quoted {key : List Char} (hkey : '\'' ∉ key) (rest : List Char) :
    (key ++ '\'' :: rest).span (· != '\'') = (key, '\'' :: rest) := by
  refine Text.span_append (fun c hc => ?_) (Text.stops_cons.mpr rfl)
  rw [bne_iff_ne]
  rintro rfl
  exact hkey hc

/-- A key in quotes and brackets. -/
theorem readBracket_quoted {key : List Char} (hkey : '\'' ∉ key) (rest : List Char) :
    readBracket (φ := φ) ('\'' :: (key ++ '\'' :: ']' :: rest)) =
      .ok (.key (String.ofList key), rest) := by
  simp only [readBracket, beq_self_eq_true, Bool.true_or, if_true, span_quoted hkey]

/-- A key with a quote in it is cut there, if it is read at all. -/
theorem eq_of_readBracket_quoted {key : List Char} (hkey : '\'' ∉ key) {rest behind : List Char}
    {s : Segment φ} (h : readBracket ('\'' :: (key ++ '\'' :: rest)) = .ok (s, behind)) :
    s = .key (String.ofList key) := by
  simp only [readBracket, beq_self_eq_true, Bool.true_or, if_true, span_quoted hkey] at h
  split at h
  · simp at h
  · next heq =>
      obtain ⟨rfl, -⟩ := Prod.mk.inj heq
      exact (Prod.mk.inj (Except.ok.inj h)).1.symm
  · simp at h

/-! ### Segments -/

/-- The characters of a plain key, of which there is a first one. -/
theorem exists_of_isPlainKey {k : String} (h : isPlainKey k = true) :
    ∃ c cs, k.toList = c :: cs ∧ ∀ d ∈ c :: cs,
      d ≠ '.' ∧ d ≠ '[' ∧ d ≠ '\'' ∧ Text.isBlank d = false := by
  rw [isPlainKey, Bool.and_eq_true] at h
  obtain ⟨c, cs, hk⟩ := List.exists_cons_of_ne_nil (l := k.toList) (by simpa using h.1)
  refine ⟨c, cs, hk, fun d hd => ?_⟩
  have hany := h.2
  rw [Bool.not_eq_true', List.any_eq_false] at hany
  have hplain := hany d (hk ▸ hd)
  simp only [Bool.or_eq_true, beq_iff_eq, not_or, Bool.not_eq_true] at hplain
  exact ⟨hplain.1.1.1.1.1, hplain.1.1.1.1.2, hplain.1.1.2, hplain.2⟩

/-- The text of a key that is not plain. -/
theorem segmentText_of_not_isPlainKey {k : String} (h : ¬isPlainKey k = true) :
    segmentText source (.key k) =
      '[' :: '\'' :: (Text.replaceText ['\''] ['\\', '\''] k.toList ++ ['\'', ']']) := by
  rw [segmentText, if_neg h]
  rfl

/-- In front of its first quote a key is written as it is. -/
theorem replaceText_quote {before : List Char} (h : '\'' ∉ before) (rest : List Char) :
    Text.replaceText ['\''] ['\\', '\''] (before ++ rest) =
      before ++ Text.replaceText ['\''] ['\\', '\''] rest := by
  have hbefore : (before.flatMap fun d => if d = '\'' then ['\\', '\''] else [d]) = before := by
    conv_rhs => rw [← List.flatMap_singleton' before]
    refine List.flatMap_congr fun d hd => if_neg ?_
    rintro rfl
    exact h hd
  rw [Text.replaceText_singleton, Text.replaceText_singleton, List.flatMap_append, hbefore]

/-- A place is written with a dot or an opening bracket first, and with no blank last. -/
theorem exists_segmentText {s : Segment φ} (hs : s.IsPlace) :
    (∃ cs, segmentText source s = '.' :: cs ∨ segmentText source s = '[' :: cs) ∧
      ∃ start c, segmentText source s = start ++ [c] ∧ Text.isBlank c = false := by
  cases s with
  | key k =>
      by_cases hk : isPlainKey k = true
      · obtain ⟨c, cs, hlist, hplain⟩ := exists_of_isPlainKey hk
        have hne : k.toList ≠ [] := by simp [hlist]
        have hlast : k.toList.getLast hne ∈ c :: cs := by
          rw [← hlist]
          exact List.getLast_mem hne
        rw [segmentText, if_pos hk]
        refine ⟨⟨_, .inl rfl⟩, '.' :: k.toList.dropLast, _, ?_, (hplain _ hlast).2.2.2⟩
        rw [List.cons_append, List.dropLast_concat_getLast hne]
      · rw [segmentText_of_not_isPlainKey source hk]
        refine ⟨⟨_, .inr rfl⟩, ?_⟩
        refine ⟨'[' :: '\'' :: (Text.replaceText ['\''] ['\\', '\''] k.toList ++ ['\'']), ']', ?_,
          by decide⟩
        simp
  | index i => exact ⟨⟨_, .inr rfl⟩, '[' :: digitsOf i, ']', rfl, by decide⟩
  | wildcard | slice _ _ | filter _ | descendant _ => exact hs.elim

/-- A name ends where the text of a path begins. -/
theorem endsName_flatMap {path : Segments φ} (h : ∀ s ∈ path, s.IsPlace) :
    EndsName (path.flatMap (segmentText source)) := by
  cases path with
  | nil => exact Text.stops_nil _
  | cons s path =>
      obtain ⟨cs, heq | heq⟩ := (exists_segmentText source (h s (List.mem_cons_self ..))).1 <;>
        rw [List.flatMap_cons, heq, List.cons_append] <;> exact Text.stops_cons.mpr rfl

/-- A place without quotes in its key is read back from its text. -/
theorem readSegments_segmentText {s : Segment φ} (hs : s.IsPlace)
    (hquote : s.QuoteFree) {rest : List Char} (hrest : EndsName rest)
    (fuel : Nat) :
    readSegments wrap readFilter (fuel + 1) (segmentText source s ++ rest) =
      (readSegments wrap readFilter fuel rest).map (s :: ·) := by
  cases s with
  | key k =>
      by_cases hk : isPlainKey k = true
      · obtain ⟨c, cs, hlist, hplain⟩ := exists_of_isPlainKey hk
        have hname : ∀ d ∈ c :: cs, d ≠ '.' ∧ d ≠ '[' := fun d hd =>
          ⟨(hplain d hd).1, (hplain d hd).2.1⟩
        rw [segmentText, if_pos hk, hlist, List.cons_append,
          readSegments_dot wrap readFilter hname hrest, ← hlist, String.ofList_toList]
      · have hfree : '\'' ∉ k.toList := hquote
        have hescape := replaceText_quote hfree []
        rw [List.append_nil] at hescape
        rw [segmentText_of_not_isPlainKey source hk, hescape, List.cons_append,
          readSegments_bracket wrap readFilter (by simp), List.cons_append, List.append_assoc]
        simp only [List.cons_append, List.nil_append, Text.replaceText, Text.replaceTextFrom,
          readBracket_quoted hfree, String.ofList_toList, List.append_nil]
  | index i =>
      have hhead : (digitsOf i ++ ']' :: rest).head? ≠ some '?' := by
        rw [ne_eq, List.head?_eq_some_iff]
        rintro ⟨more, hmore⟩
        exact digitsOf_append_ne_cons rfl i _ more hmore
      have htext : segmentText source (.index i) ++ rest = '[' :: (digitsOf i ++ ']' :: rest) := by
        simp [segmentText]
      rw [htext, readSegments_bracket wrap readFilter hhead, readBracket_digitsOf hs]
  | wildcard | slice _ _ | filter _ | descendant _ => exact hs.elim

/-- A key with a quote is not read back from its text. -/
theorem readSegments_segmentText_ne {s : Segment φ} (hs : ¬s.QuoteFree) (rest : List Char)
    (fuel : Nat) (path : Segments φ) :
    readSegments wrap readFilter fuel (segmentText source s ++ rest) ≠ .ok (s :: path) := by
  obtain ⟨k, rfl, hquote⟩ : ∃ k, s = .key k ∧ '\'' ∈ k.toList := by
    cases s with
    | key k => exact ⟨k, rfl, not_not.mp hs⟩
    | index _ | wildcard | slice _ _ | filter _ | descendant _ => exact absurd trivial hs
  have hplain : ¬isPlainKey k = true := by
    intro hk
    obtain ⟨c, cs, hlist, hchars⟩ := exists_of_isPlainKey hk
    exact (hchars _ (hlist ▸ hquote)).2.2.1 rfl
  obtain ⟨before, behind, hlist, hbefore⟩ := List.eq_append_cons_of_mem hquote
  have hcut : '\'' ∉ before ++ ['\\'] := by simpa using hbefore
  have htext : ∃ more, segmentText source (.key k) ++ rest =
      '[' :: '\'' :: ((before ++ ['\\']) ++ '\'' :: more) := by
    refine ⟨Text.replaceText ['\''] ['\\', '\''] behind ++ ['\'', ']'] ++ rest, ?_⟩
    rw [segmentText_of_not_isPlainKey source hplain, hlist, replaceText_quote hbefore]
    simp [Text.replaceText_singleton]
  obtain ⟨more, htext⟩ := htext
  intro h
  rw [htext] at h
  cases fuel with
  | zero => simp [readSegments] at h
  | succ fuel =>
      rw [readSegments_bracket wrap readFilter (by simp)] at h
      split at h
      · simp at h
      · next s behind' hread =>
          obtain ⟨others, -, heq⟩ := map_eq_ok_iff.mp h
          have hkey : s = .key k := (List.cons.inj heq).1
          rw [eq_of_readBracket_quoted hcut hread, Segment.key.injEq] at hkey
          rw [← hkey, String.toList_ofList] at hquote
          exact hcut hquote

/-! ### Paths -/

/-- The text of a place is not empty. -/
theorem length_segmentText_pos {s : Segment φ} (hs : s.IsPlace) :
    0 < (segmentText source s).length := by
  obtain ⟨start, c, heq, -⟩ := (exists_segmentText source hs).2
  simp [heq]

/-- A segment in front of both sides makes no difference. -/
theorem map_cons_eq_ok_iff {x : Except ε (Segments φ)} {s : Segment φ} {path : Segments φ} :
    x.map (s :: ·) = .ok (s :: path) ↔ x = .ok path := by
  simp [map_eq_ok_iff]

/-- A path without the sign of the root is read back exactly if no key has a quote. -/
theorem readSegments_flatMap_iff {path : Segments φ} (h : ∀ s ∈ path, s.IsPlace) (fuel : Nat)
    (hfuel : (path.flatMap (segmentText source)).length ≤ fuel) :
    readSegments wrap readFilter fuel (path.flatMap (segmentText source)) = .ok path ↔
      ∀ s ∈ path, s.QuoteFree := by
  induction path generalizing fuel with
  | nil => simp [readSegments]
  | cons s path ih =>
      rw [List.forall_mem_cons] at h
      rw [List.flatMap_cons] at hfuel ⊢
      by_cases hquote : s.QuoteFree
      · have hpos := length_segmentText_pos source h.1
        rw [List.length_append] at hfuel
        obtain ⟨fuel, rfl⟩ : ∃ f, fuel = f + 1 := ⟨fuel - 1, by omega⟩
        rw [readSegments_segmentText wrap readFilter source h.1 hquote
            (endsName_flatMap source h.2), map_cons_eq_ok_iff, ih h.2 fuel (by omega),
          List.forall_mem_cons, and_iff_right hquote]
      · refine iff_of_false (readSegments_segmentText_ne wrap readFilter source hquote _ _ _) ?_
        exact fun hall => hquote (hall s (List.mem_cons_self ..))

/-- A name alone is the key of that name. -/
theorem parseSegments_name {c : Char} {name : List Char}
    (hname : ∀ d ∈ c :: name, d ≠ '.' ∧ d ≠ '[')
    (hblank : ∀ d ∈ c :: name, Text.isBlank d = false)
    (hroot : withoutRoot (c :: name) = c :: name) :
    parseSegments wrap readFilter (String.ofList (c :: name)) =
      .ok [.key (String.ofList (c :: name))] := by
  have hread := readSegments_name wrap readFilter hname (Text.stops_nil _) name.length
  rw [List.append_nil, readSegments] at hread
  rw [parseSegments, String.toList_ofList, Text.trim_of_forall_not hblank, hroot]
  exact hread

/-- The text of a path is not trimmed. -/
theorem trim_text {path : Segments φ} (h : ∀ s ∈ path, s.IsPlace) :
    Text.trim ('$' :: path.flatMap (segmentText source)) =
      '$' :: path.flatMap (segmentText source) := by
  rcases List.eq_nil_or_concat path with rfl | ⟨before, s, rfl⟩
  · rfl
  · obtain ⟨start, c, heq, hc⟩ := (exists_segmentText source (h s (by simp))).2
    have hends := Text.trim_cons_concat (by decide : Text.isBlank '$' = false) hc
      (before.flatMap (segmentText source) ++ start)
    simpa [heq] using hends

/-- Of a first key that is plain the dot goes with the sign of the root. -/
theorem withoutRoot_plainKey {k : String} (hk : isPlainKey k = true) (others : Segments φ) :
    withoutRoot ('$' :: (Segment.key k :: others).flatMap (segmentText source)) =
      k.toList ++ others.flatMap (segmentText source) := by
  obtain ⟨c, cs, hlist, hchars⟩ := exists_of_isPlainKey hk
  have hdot : c ≠ '.' := (hchars c (List.mem_cons_self ..)).1
  rw [List.flatMap_cons, segmentText, if_pos hk, hlist]
  simp [withoutRoot, hdot]

/-- Of all other paths nothing but the sign of the root goes. -/
theorem withoutRoot_flatMap {path : Segments φ}
    (h : ¬∃ k others, path = .key k :: others ∧ isPlainKey k = true) :
    withoutRoot ('$' :: path.flatMap (segmentText source)) = path.flatMap (segmentText source) := by
  rcases path with - | ⟨s, path⟩
  · rfl
  · cases s with
    | key k =>
        have hk : ¬isPlainKey k = true := fun hk => h ⟨k, path, rfl, hk⟩
        rw [List.flatMap_cons, segmentText_of_not_isPlainKey source hk]
        rfl
    | index _ | wildcard | slice _ _ | filter _ | descendant _ => rfl

/-- A path is read back from its whole text exactly if no key has a quote. -/
theorem parseSegments_text_iff {path : Segments φ} (h : ∀ s ∈ path, s.IsPlace) :
    parseSegments wrap readFilter (segmentsText source path) = .ok path ↔
      ∀ s ∈ path, s.QuoteFree := by
  rw [parseSegments, segmentsText, String.toList_ofList, trim_text source h]
  by_cases hplain : ∃ k others, path = .key k :: others ∧ isPlainKey k = true
  · obtain ⟨k, others, rfl, hk⟩ := hplain
    obtain ⟨c, cs, hlist, hchars⟩ := exists_of_isPlainKey hk
    have hname : ∀ d ∈ c :: cs, d ≠ '.' ∧ d ≠ '[' := fun d hd =>
      ⟨(hchars d hd).1, (hchars d hd).2.1⟩
    have hfree : (Segment.key k : Segment φ).QuoteFree := fun hq =>
      (hchars _ (hlist ▸ hq)).2.2.1 rfl
    rw [List.forall_mem_cons] at h
    rw [withoutRoot_plainKey source hk, hlist, List.cons_append, List.length_cons,
      ← List.cons_append, readSegments_name wrap readFilter hname (endsName_flatMap source h.2),
      ← hlist,
      String.ofList_toList, map_cons_eq_ok_iff,
      readSegments_flatMap_iff wrap readFilter source h.2 _ (by simp), List.forall_mem_cons,
      and_iff_right hfree]
  · rw [withoutRoot_flatMap source hplain]
    exact readSegments_flatMap_iff wrap readFilter source h _ (Nat.le_refl _)

end PathText

/-- **A path of keys and indices is read back from its text** exactly if no key has a quote. -/
theorem parse_text_iff {path : Path} (h : ∀ s ∈ path, s.IsPlace) :
    Path.parse path.text = .ok path ↔ ∀ s ∈ path, s.QuoteFree :=
  PathText.parseSegments_text_iff _ _ _ h

/-- Keys that have to be quoted, indices and plain keys, all without a quote. -/
def quotedPath : Path :=
  [.key "", .index 18446744073709551615, .key "a].[\"b\\", .key "c", .key " "]

/-- A path with brackets, blanks and backslashes in its keys is read back. -/
theorem parse_text_iff_quotedPath :
    (∀ s ∈ quotedPath, s.IsPlace) ∧ (∀ s ∈ quotedPath, s.QuoteFree) ∧
      Path.parse quotedPath.text = .ok quotedPath := by
  have hplace : ∀ s ∈ quotedPath, s.IsPlace := by
    simp [quotedPath, Segment.IsPlace, Value.lengthBound]
  have hfree : ∀ s ∈ quotedPath, s.QuoteFree := by
    simp [quotedPath, Segment.QuoteFree]
  exact ⟨hplace, hfree, (parse_text_iff hplace).mpr hfree⟩

/-- The path of a key with a quote is not read at all. -/
theorem not_forall_parse_text :
    ¬∀ path : Path, (∀ s ∈ path, s.IsPlace) → Path.parse path.text = .ok path := by
  intro h
  have hread := h [.key "it's"] (by simp [Segment.IsPlace])
  have hfails : (Path.parse (Path.text [.key "it's"])).isOk = false := by rfl
  rw [hread] at hfails
  exact Bool.noConfusion hfails

end JsonWorkbench
