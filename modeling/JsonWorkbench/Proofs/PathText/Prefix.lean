import JsonWorkbench.Proofs.PathText

/-!
# Paths whose Texts Begin Alike

The text of a path is the start of the texts of all paths that lead on from it. It can be the start
of another text as well, because nothing tells the end of a plain name: `$.a` is the start of `$.ab`.
The text of an index ends in its bracket, which no digit is. A key in quotes ends in its quote and
its bracket, but a backslash in front of a quote says two things: the quote is one of the key, or the
key ends in the backslash and the quote closes it. So a key that ends in a backslash can be taken for
the start of one that has a quote and a bracket there, and the other way round, as long as what
follows is alike too.

## Main definitions

* `Entangled` — two different keys in quotes that are written alike.
* `Shadows` — a path whose text is the start of that of a path that does not lead on from it.

## Main results

* `name_prefix_iff`, `quotedRest_prefix_iff`, `segmentText_index_prefix_iff` — when the text of a
  segment, with what follows it, is the start of another one.
* `flatMap_segmentText_prefix_iff` — when the text of a path is the start of another one.
-/

namespace JsonWorkbench

namespace PathText

variable {φ : Type} (source : φ → String)

/-! ### Keys in quotes -/

/-- What is written behind the opening quote of a key in brackets. -/
def quotedRest (key : List Char) : List Char :=
  Text.replaceText ['\''] ['\\', '\''] key ++ ['\'', ']']

/-- Behind a key stand its quote and the bracket. -/
theorem quotedRest_nil : quotedRest [] = ['\'', ']'] := rfl

/-- A quote is written behind a backslash. -/
theorem quotedRest_quote (cs : List Char) :
    quotedRest ('\'' :: cs) = '\\' :: '\'' :: quotedRest cs := by
  simp [quotedRest, Text.replaceText_singleton]

/-- Any other character is written as it is. -/
theorem quotedRest_cons {c : Char} (hc : c ≠ '\'') (cs : List Char) :
    quotedRest (c :: cs) = c :: quotedRest cs := by
  simp [quotedRest, Text.replaceText_singleton, hc]

/-- Two different keys are written alike up to the end of one of them, which is a backslash: with
the quote behind it, it reads like a quote in the other key. `more` and `others` are what is written
behind the keys. -/
inductive Entangled (more others : List Char) : List Char → List Char → Prop
  /-- The first key ends in the backslash. -/
  | backslash {cs : List Char} (h : more <+: quotedRest cs ++ others) :
      Entangled more others ['\\'] ('\'' :: ']' :: cs)
  /-- The second key ends in the backslash. -/
  | quote {cs : List Char} (h : quotedRest cs ++ more <+: others) :
      Entangled more others ('\'' :: ']' :: cs) ['\\']
  /-- The keys have begun alike. -/
  | cons (c : Char) {cs ds : List Char} (h : Entangled more others cs ds) :
      Entangled more others (c :: cs) (c :: ds)

/-- Entangled keys are different. -/
theorem Entangled.ne {more others cs ds : List Char} (h : Entangled more others cs ds) :
    cs ≠ ds := by
  induction h with
  | backslash | quote => simp
  | cons c _ ih => simpa using ih

/-- Entangled keys are written alike. -/
theorem Entangled.isPrefix {more others cs ds : List Char} (h : Entangled more others cs ds) :
    quotedRest cs ++ more <+: quotedRest ds ++ others := by
  have hbackslash : quotedRest ['\\'] = ['\\', '\'', ']'] := rfl
  have hquote (cs : List Char) :
      quotedRest ('\'' :: ']' :: cs) = '\\' :: '\'' :: ']' :: quotedRest cs := by
    rw [quotedRest_quote, quotedRest_cons (by decide)]
  induction h with
  | backslash h => simpa [hbackslash, hquote] using h
  | quote h => simpa [hbackslash, hquote] using h
  | cons c _ ih =>
      by_cases hc : c = '\''
      · simpa [hc, quotedRest_quote] using ih
      · simpa [quotedRest_cons hc] using ih

/-- What is written behind the opening quote begins with a quote only if the key is empty, and with
a bracket only if the key does. -/
theorem exists_quotedRest (cs : List Char) :
    ∃ c text, quotedRest cs = c :: text ∧ (c = '\'' → cs = []) ∧
      (c = ']' → ∃ rest, cs = ']' :: rest ∧ text = quotedRest rest) := by
  cases cs with
  | nil => exact ⟨_, _, quotedRest_nil, fun _ => rfl, by simp⟩
  | cons c cs =>
      by_cases hc : c = '\''
      · subst hc
        exact ⟨_, _, quotedRest_quote cs, by simp, by simp⟩
      · exact ⟨_, _, quotedRest_cons hc cs, fun h => absurd h hc, fun h => ⟨cs, by rw [h], rfl⟩⟩

/-- Keys that begin with different characters are written alike only if one of them is a backslash
and nothing else. -/
theorem entangled_of_ne {more others cs ds : List Char} {c d : Char} (hcd : c ≠ d)
    (h : quotedRest (c :: cs) ++ more <+: quotedRest (d :: ds) ++ others) :
    Entangled more others (c :: cs) (d :: ds) := by
  by_cases hc : c = '\''
  · subst hc
    obtain ⟨x, text, hds, hquote, -⟩ := exists_quotedRest ds
    obtain ⟨y, text', hcs, -, hbracket⟩ := exists_quotedRest cs
    rw [quotedRest_quote, quotedRest_cons (Ne.symm hcd), hds] at h
    simp only [List.cons_append, List.cons_prefix_cons] at h
    obtain ⟨rfl, rfl, h⟩ := h
    obtain rfl := hquote rfl
    obtain rfl : text = [']'] := (List.cons.inj hds).2.symm
    simp only [hcs, List.cons_append, List.nil_append, List.cons_prefix_cons] at h
    obtain ⟨rest, rfl, rfl⟩ := hbracket h.1
    exact .quote h.2
  · by_cases hd : d = '\''
    · subst hd
      obtain ⟨x, text, hcs, hquote, -⟩ := exists_quotedRest cs
      obtain ⟨y, text', hds, -, hbracket⟩ := exists_quotedRest ds
      rw [quotedRest_quote, quotedRest_cons hc, hcs] at h
      simp only [List.cons_append, List.cons_prefix_cons] at h
      obtain ⟨rfl, rfl, h⟩ := h
      obtain rfl := hquote rfl
      obtain rfl : text = [']'] := (List.cons.inj hcs).2.symm
      simp only [hds, List.cons_append, List.nil_append, List.cons_prefix_cons] at h
      obtain ⟨rest, rfl, rfl⟩ := hbracket h.1.symm
      exact .backslash h.2
    · rw [quotedRest_cons hc, quotedRest_cons hd, List.cons_append, List.cons_append,
        List.cons_prefix_cons] at h
      exact absurd h.1 hcd

/-- **The text of a key in quotes, with what follows it, is the start of another one** exactly if
the keys are the same and what follows is a start too, or the keys are entangled. -/
theorem quotedRest_prefix_iff {more others cs ds : List Char} :
    quotedRest cs ++ more <+: quotedRest ds ++ others ↔
      (cs = ds ∧ more <+: others) ∨ Entangled more others cs ds := by
  constructor
  · intro h
    induction cs generalizing ds with
    | nil =>
        obtain ⟨x, text, hds, hquote, -⟩ := exists_quotedRest ds
        rw [quotedRest_nil, hds] at h
        simp only [List.cons_append, List.nil_append, List.cons_prefix_cons] at h
        obtain rfl := hquote h.1.symm
        obtain rfl : text = [']'] := (List.cons.inj hds).2.symm
        exact .inl ⟨rfl, by simpa using h.2⟩
    | cons c cs ih =>
        cases ds with
        | nil =>
            obtain ⟨x, text, hcs, hquote, -⟩ := exists_quotedRest (c :: cs)
            rw [quotedRest_nil, hcs, List.cons_append, List.cons_append, List.cons_prefix_cons] at h
            exact absurd (hquote h.1) (List.cons_ne_nil c cs)
        | cons d ds =>
            by_cases hcd : c = d
            · subst hcd
              have hrest : quotedRest cs ++ more <+: quotedRest ds ++ others := by
                by_cases hc : c = '\''
                · simpa [hc, quotedRest_quote] using h
                · simpa [quotedRest_cons hc] using h
              rcases ih hrest with ⟨rfl, hmore⟩ | hentangled
              · exact .inl ⟨rfl, hmore⟩
              · exact .inr (.cons c hentangled)
            · exact .inr (entangled_of_ne hcd h)
  · rintro (⟨rfl, h⟩ | h)
    · exact (List.prefix_append_right_inj _).mpr h
    · exact h.isPrefix

/-! ### Names -/

/-- **A name, with what follows it, is the start of another one** exactly if the names are the same
and what follows is a start too, or nothing follows and the other name is longer. -/
theorem name_prefix_iff {name name' more others : List Char}
    (hname : ∀ c ∈ name, c ≠ '.' ∧ c ≠ '[') (hname' : ∀ c ∈ name', c ≠ '.' ∧ c ≠ '[')
    (hmore : EndsName more) (hothers : EndsName others) :
    name ++ more <+: name' ++ others ↔
      (name = name' ∧ more <+: others) ∨ (more = [] ∧ name <+: name' ∧ name ≠ name') := by
  have hends : ∀ {c : Char} {cs : List Char}, c ≠ '.' ∧ c ≠ '[' → ¬EndsName (c :: cs) := by
    intro c cs hc hstop
    have hclass := Text.stops_cons.mp hstop
    simp [hc] at hclass
  constructor
  · intro h
    rcases List.prefix_or_prefix_of_prefix ((List.prefix_append name more).trans h)
        (List.prefix_append name' others) with ⟨rest, rfl⟩ | ⟨rest, rfl⟩
    · rw [List.append_assoc, List.prefix_append_right_inj] at h
      cases rest with
      | nil => exact .inl ⟨by simp, h⟩
      | cons c rest =>
          cases more with
          | nil => exact .inr ⟨rfl, List.prefix_append _ _, by simp⟩
          | cons d more =>
              obtain ⟨rfl, -⟩ := List.cons_prefix_cons.mp h
              exact absurd hmore (hends (hname' d (by simp)))
    · rw [List.append_assoc, List.prefix_append_right_inj] at h
      cases rest with
      | nil => exact .inl ⟨by simp, h⟩
      | cons c rest =>
          obtain ⟨behind, rfl⟩ := h
          exact absurd hothers (hends (hname c (by simp)))
  · rintro (⟨rfl, h⟩ | ⟨rfl, h, -⟩)
    · exact (List.prefix_append_right_inj _).mpr h
    · rw [List.append_nil]
      exact h.trans (List.prefix_append _ _)

/-! ### Paths -/

/-- The text of a path is the start of the text of another one that does not lead on from it. -/
inductive Shadows : Segments φ → Segments φ → Prop
  /-- The last name of the first path is the start of a longer name. -/
  | longerName {k k' : String} {q : Segments φ} (hk : isPlainKey k = true)
      (hk' : isPlainKey k' = true) (hstart : k.toList <+: k'.toList) (hne : k ≠ k') :
      Shadows [.key k] (.key k' :: q)
  /-- Two keys in quotes are entangled. -/
  | entangled {k k' : String} {p q : Segments φ} (hk : isPlainKey k = false)
      (hk' : isPlainKey k' = false)
      (h : Entangled (p.flatMap (segmentText source)) (q.flatMap (segmentText source))
        k.toList k'.toList) : Shadows (.key k :: p) (.key k' :: q)
  /-- The paths have begun alike. -/
  | cons (s : Segment φ) {p q : Segments φ} (h : Shadows p q) : Shadows (s :: p) (s :: q)

/-- What two paths have in common at their starts does not matter. -/
theorem shadows_cons_self_iff {s : Segment φ} {p q : Segments φ} :
    Shadows source (s :: p) (s :: q) ↔ Shadows source p q := by
  refine ⟨fun h => ?_, .cons s⟩
  cases h with
  | longerName hk hk' hstart hne => exact absurd rfl hne
  | entangled hk hk' h => exact absurd rfl h.ne
  | cons s h => exact h

/-- The text of a key that is not plain. -/
theorem segmentText_quoted {k : String} (hk : isPlainKey k = false) :
    segmentText source (.key k) = '[' :: '\'' :: quotedRest k.toList :=
  segmentText_of_not_isPlainKey source (by simp [hk])

/-- Different keys: the text of the one, with what follows it, is the start of the other one. -/
theorem segmentText_key_prefix_iff {k k' : String} (hne : k ≠ k') {more others : List Char}
    (hmore : EndsName more) (hothers : EndsName others) :
    segmentText source (.key k) ++ more <+: segmentText source (.key k') ++ others ↔
      (isPlainKey k = true ∧ isPlainKey k' = true ∧ more = [] ∧ k.toList <+: k'.toList) ∨
        (isPlainKey k = false ∧ isPlainKey k' = false ∧
          Entangled more others k.toList k'.toList) := by
  have hchars : k.toList ≠ k'.toList := fun h => hne (String.toList_injective h)
  have hplain : ∀ {k : String}, isPlainKey k = true → ∀ c ∈ k.toList, c ≠ '.' ∧ c ≠ '[' := by
    intro k hk c hc
    obtain ⟨d, ds, hlist, hfree⟩ := exists_of_isPlainKey hk
    exact ⟨(hfree c (hlist ▸ hc)).1, (hfree c (hlist ▸ hc)).2.1⟩
  cases hk : isPlainKey k with
  | true =>
      cases hk' : isPlainKey k' with
      | true =>
          rw [segmentText, segmentText, if_pos hk, if_pos hk', List.cons_append, List.cons_append,
            List.cons_prefix_cons, name_prefix_iff (hplain hk) (hplain hk') hmore hothers]
          simp [hchars]
      | false =>
          rw [segmentText_quoted source hk', segmentText, if_pos hk]
          simp
  | false =>
      cases hk' : isPlainKey k' with
      | true =>
          rw [segmentText_quoted source hk, segmentText, if_pos hk']
          simp
      | false =>
          rw [segmentText_quoted source hk, segmentText_quoted source hk']
          simp [quotedRest_prefix_iff, hchars]

/-- The text of an index is the start of that of the same index only. -/
theorem segmentText_index_prefix_iff {i j : Nat} {more others : List Char} :
    segmentText source (.index i) ++ more <+: segmentText source (.index j) ++ others ↔
      i = j ∧ more <+: others := by
  have hspan (n : Nat) (rest : List Char) :
      (digitsOf n ++ ']' :: rest).span Char.isDigit = (digitsOf n, ']' :: rest) :=
    Text.span_append (fun _ hc => isDigit_of_mem_digitsOf hc) (Text.stops_cons.mpr rfl)
  constructor
  · rintro ⟨rest, h⟩
    have hdigits : digitsOf i ++ ']' :: (more ++ rest) = digitsOf j ++ ']' :: others := by
      simpa [segmentText] using h
    replace hdigits := congrArg (List.span Char.isDigit) hdigits
    rw [hspan, hspan, Prod.mk.injEq, List.cons.injEq] at hdigits
    exact ⟨digitsOf_injective hdigits.1, rest, hdigits.2.2⟩
  · rintro ⟨rfl, h⟩
    exact (List.prefix_append_right_inj _).mpr h

/-- The text of an index begins with a bracket and a digit. -/
theorem exists_segmentText_index (i : Nat) :
    ∃ d text, segmentText source (.index i) = '[' :: d :: text ∧ d.isDigit = true := by
  obtain ⟨d, ds, hdigits, hd, -⟩ := exists_digitsOf i
  refine ⟨d, ds ++ [']'], ?_, hd⟩
  rw [segmentText, hdigits]
  rfl

/-- The text of a key begins with a dot, or with a bracket and a quote. -/
theorem exists_segmentText_key (k : String) :
    ∃ text, segmentText source (.key k) = '.' :: text ∨
      segmentText source (.key k) = '[' :: '\'' :: text := by
  cases hk : isPlainKey k with
  | true => exact ⟨k.toList, .inl (by rw [segmentText, if_pos hk])⟩
  | false => exact ⟨quotedRest k.toList, .inr (segmentText_quoted source hk)⟩

/-- The texts of a key and of an index do not begin alike. -/
theorem not_segmentText_alike (k : String) (i : Nat) (more others : List Char) :
    (¬segmentText source (.key k) ++ more <+: segmentText source (.index i) ++ others) ∧
      ¬segmentText source (.index i) ++ more <+: segmentText source (.key k) ++ others := by
  obtain ⟨d, text, hindex, hdigit⟩ := exists_segmentText_index source i
  have hd : d ≠ '\'' := by
    rintro rfl
    exact absurd hdigit (by decide)
  obtain ⟨name, hkey | hkey⟩ := exists_segmentText_key source k <;> rw [hindex, hkey] <;>
    simp [hd, Ne.symm hd]

/-- The text of a name or an index begins with a dot or a bracket. -/
theorem exists_segmentText_of_isLiteral {s : Segment φ} (hs : s.isLiteral = true) :
    ∃ c text, segmentText source s = c :: text ∧ (c = '.' ∨ c = '[') := by
  cases s with
  | key k =>
      obtain ⟨text, h | h⟩ := exists_segmentText_key source k
      · exact ⟨_, _, h, .inl rfl⟩
      · exact ⟨_, _, h, .inr rfl⟩
  | index i => exact ⟨_, _, rfl, .inr rfl⟩
  | wildcard | slice _ _ | filter _ | descendant _ => exact absurd hs Bool.false_ne_true

section Paths

variable {p q : Segments φ} (hp : ∀ s ∈ p, s.isLiteral = true)

include hp

/-- A name ends where the text of a path of names and indices begins. -/
theorem endsName_flatMap_of_isLiteral : EndsName (p.flatMap (segmentText source)) := by
  cases p with
  | nil => exact Text.stops_nil _
  | cons s p =>
      obtain ⟨c, text, heq, hc⟩ := exists_segmentText_of_isLiteral source (hp s (by simp))
      rw [List.flatMap_cons, heq]
      exact Text.stops_cons.mpr (by rcases hc with rfl | rfl <;> rfl)

/-- A path of names and indices has an empty text only if it is empty. -/
theorem flatMap_segmentText_eq_nil_iff : p.flatMap (segmentText source) = [] ↔ p = [] := by
  cases p with
  | nil => simp
  | cons s p =>
      obtain ⟨c, text, heq, -⟩ := exists_segmentText_of_isLiteral source (hp s (by simp))
      simp [heq]

/-- Behind different segments, a path shadows another one if already the texts from there on begin
alike. -/
theorem shadows_cons_iff_of_ne {s t : Segment φ} (hs : s.isLiteral = true)
    (ht : t.isLiteral = true) (hst : s ≠ t) (hq : ∀ s ∈ q, s.isLiteral = true) :
    Shadows source (s :: p) (t :: q) ↔
      segmentText source s ++ p.flatMap (segmentText source) <+:
        segmentText source t ++ q.flatMap (segmentText source) := by
  cases s with
  | key k =>
      cases t with
      | key k' =>
          have hne : k ≠ k' := fun h => hst (congrArg Segment.key h)
          rw [segmentText_key_prefix_iff source hne (endsName_flatMap_of_isLiteral source hp)
            (endsName_flatMap_of_isLiteral source hq), flatMap_segmentText_eq_nil_iff source hp]
          constructor
          · rintro (⟨hk, hk', hstart, -⟩ | ⟨hk, hk', h⟩ | h)
            · exact .inl ⟨hk, hk', rfl, hstart⟩
            · exact .inr ⟨hk, hk', h⟩
            · exact absurd rfl hne
          · rintro (⟨hk, hk', rfl, hstart⟩ | ⟨hk, hk', h⟩)
            · exact .longerName hk hk' hstart hne
            · exact .entangled hk hk' h
      | index i =>
          refine iff_of_false (fun h => ?_) (not_segmentText_alike source k i _ _).1
          cases h
      | wildcard | slice _ _ | filter _ | descendant _ => exact absurd ht Bool.false_ne_true
  | index i =>
      cases t with
      | key k =>
          refine iff_of_false (fun h => ?_) (not_segmentText_alike source k i _ _).2
          cases h
      | index j =>
          have hne : i ≠ j := fun h => hst (congrArg Segment.index h)
          rw [segmentText_index_prefix_iff]
          refine iff_of_false (fun h => ?_) fun h => hne h.1
          cases h
          exact hne rfl
      | wildcard | slice _ _ | filter _ | descendant _ => exact absurd ht Bool.false_ne_true
  | wildcard | slice _ _ | filter _ | descendant _ => exact absurd hs Bool.false_ne_true

/-- **The text of a path of names and indices is the start of another one** exactly if the other
path leads on from it or is shadowed by it. -/
theorem flatMap_segmentText_prefix_iff (hq : ∀ s ∈ q, s.isLiteral = true) :
    p.flatMap (segmentText source) <+: q.flatMap (segmentText source) ↔
      p <+: q ∨ Shadows source p q := by
  induction p generalizing q with
  | nil => simp
  | cons s p ih =>
      cases q with
      | nil =>
          have hne := (flatMap_segmentText_eq_nil_iff source hp).not.mpr (List.cons_ne_nil s p)
          rw [List.flatMap_nil, List.prefix_nil, List.prefix_nil]
          refine iff_of_false hne ?_
          rintro (h | h)
          · exact List.cons_ne_nil _ _ h
          · cases h
      | cons t q =>
          rw [List.forall_mem_cons] at hp hq
          rw [List.flatMap_cons, List.flatMap_cons, List.cons_prefix_cons]
          by_cases hst : s = t
          · subst hst
            rw [List.prefix_append_right_inj, ih hp.2 hq.2, shadows_cons_self_iff,
              and_iff_right rfl]
          · rw [shadows_cons_iff_of_ne source hp.2 hp.1 hq.1 hst hq.2]
            simp [hst]

end Paths

end PathText
end JsonWorkbench
