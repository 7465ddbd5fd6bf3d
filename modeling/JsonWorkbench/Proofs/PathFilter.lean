import JsonWorkbench.Proofs.PathText

/-!
# Filters in Paths

The texts of filters stand in a path between `[?(` and `)]`. A filter is searched for its end with
an eye to quotes: between quotes no filter ends, and a backslash hides the character behind it. Where
a quote is never closed the filter ends at the first `)]`, so that an apostrophe in a pattern does
no harm.

The search does not stop at the end of the filter, though. If a quote is open there, it goes on
through the filters behind it, and a quote in one of those may close the one that was open. Then the
end of another filter is taken for the end of the first one. Filters are read one by one exactly if
this does not happen: each ends outside of quotes, or in quotes that are open at the ends of all
filters behind it.

## Main definitions

* `Quoting` — how a place in a text stands to the quotes in front of it.
* `Delimited` — filters each of which is closed at its end.
* `Path.filtersText` — the text of a path of filters.

## Main results

* `search_append` — the search through a text in which no filter ends.
* `search_filters_iff` — when the search through filters ends between quotes.
* `delimited_of_dropLast` — filters that close their quotes are delimited.
* `parse_filtersText_iff` — which filters are read one by one.
* `not_forall_parse_filtersText` — two filters that are not.
-/

namespace JsonWorkbench

namespace PathText

/-! ### What is found -/

section Found

variable {u v : List Char} {c d : Char}

/-- No filter ends at the start of a text in which none ends, whatever follows but a bracket. -/
theorem not_prefix_close (hd : d ≠ ']') (hu : ¬[')', ']'] <:+: c :: u) :
    ¬[')', ']'] <+: c :: (u ++ d :: v) := by
  rw [List.infix_cons_iff, not_or] at hu
  cases u with
  | nil => simpa using fun _ => Ne.symm hd
  | cons x u => simpa using hu.1

/-- A text in which no filter ends reaches up to the end behind it. -/
theorem cutAtClose_append (hu : ¬[')', ']'] <:+: u) :
    cutAtClose (u ++ ')' :: ']' :: v) = some (u, v) := by
  induction u with
  | nil => simp [cutAtClose, Text.cutAt]
  | cons c u ih =>
      have hpre := not_prefix_close (d := ')') (v := ']' :: v) (by decide) hu
      have hrest : Text.cutAt [')', ']'] (u ++ ')' :: ']' :: v) = some (u, v) :=
        ih fun hin => hu (List.infix_cons_iff.mpr (.inr hin))
      rw [← List.isPrefixOf_iff_prefix] at hpre
      rw [cutAtClose, List.cons_append, Text.cutAt, if_neg hpre, hrest]
      rfl

/-- What is found is found behind a text as well. -/
theorem foldr_cons_found (u f v : List Char) :
    u.foldr Search.cons (.found f v) = .found (u ++ f) v := by
  induction u with
  | nil => rfl
  | cons c u ih => rw [List.foldr_cons, ih]; rfl

/-- A search that finds nothing finds nothing behind a text either. -/
theorem foldr_cons_of_forall_ne {x : Search} (h : ∀ f v, x ≠ .found f v) (u : List Char) :
    u.foldr Search.cons x = x := by
  induction u with
  | nil => rfl
  | cons c u ih =>
      rw [List.foldr_cons, ih]
      cases x with
      | found f v => exact absurd rfl (h f v)
      | missing | insideQuotes => rfl

/-- A character in front does not bear on whether a search ends between quotes. -/
theorem cons_eq_insideQuotes_iff {x : Search} : x.cons c = .insideQuotes ↔ x = .insideQuotes := by
  cases x <;> simp [Search.cons]

/-- A text in front does not bear on whether a search ends between quotes. -/
theorem foldr_cons_eq_insideQuotes_iff {x : Search} :
    u.foldr Search.cons x = .insideQuotes ↔ x = .insideQuotes := by
  induction u with
  | nil => rfl
  | cons c u ih => rw [List.foldr_cons, cons_eq_insideQuotes_iff, ih]

end Found

/-! ### Quotes -/

/-- The marks that open and close a quoted text. -/
inductive QuoteMark where
  /-- The apostrophe. -/
  | single
  /-- The quotation mark. -/
  | double
  deriving Repr, DecidableEq

/-- The character of a mark. -/
def QuoteMark.char : QuoteMark → Char
  | .single => '\''
  | .double => '"'

/-- The mark that a character is. -/
def QuoteMark.ofChar? (c : Char) : Option QuoteMark :=
  if c = '\'' then some .single else if c = '"' then some .double else none

/-- How a place in a text stands to the quotes in front of it. -/
inductive Quoting where
  /-- It is outside of quotes. -/
  | outside
  /-- It is between quotes; a backslash may hide the character that follows. -/
  | inside (mark : QuoteMark) (hidden : Bool)
  deriving Repr, DecidableEq

namespace Quoting

/-- One character further. -/
def step : Quoting → Char → Quoting
  | .outside, c => ((QuoteMark.ofChar? c).map (.inside · false)).getD .outside
  | .inside mark true, _ => .inside mark false
  | .inside mark false, c =>
    if c = '\\' then .inside mark true else if c = mark.char then .outside else .inside mark false

/-- Behind a text. -/
def behind (q : Quoting) (cs : List Char) : Quoting := cs.foldl step q

/-- The search for the end of a filter from a place on. -/
def search : Quoting → List Char → Search
  | .outside => searchClose none false
  | .inside mark hidden => searchClose (some mark.char) hidden

section Search

variable {q : Quoting} {c : Char} {cs u v : List Char}

/-- Behind two texts one behind the other. -/
theorem behind_append (q : Quoting) (u v : List Char) :
    q.behind (u ++ v) = (q.behind u).behind v := List.foldl_append ..

/-- The end of a filter is found outside of quotes. -/
theorem search_close (v : List Char) : outside.search (')' :: ']' :: v) = .found [] v := by
  simp [search, searchClose]

/-- The search goes on behind a character that does not end the filter. -/
theorem search_cons (h : q ≠ outside ∨ ¬[')', ']'] <+: c :: cs) :
    q.search (c :: cs) = ((q.step c).search cs).cons c := by
  cases q with
  | outside =>
      have hclose : ¬(c = ')' ∧ cs.head? = some ']') := by
        rintro ⟨rfl, hhead⟩
        obtain ⟨rest, rfl⟩ := List.head?_eq_some_iff.mp hhead
        exact h.elim (· rfl) (· ⟨rest, rfl⟩)
      by_cases hsingle : c = '\''
      · simp [search, searchClose, step, QuoteMark.ofChar?, QuoteMark.char, hsingle]
      · by_cases hdouble : c = '"'
        · simp [search, searchClose, step, QuoteMark.ofChar?, QuoteMark.char, hdouble]
        · simp [search, searchClose, step, QuoteMark.ofChar?, hsingle, hdouble, hclose]
  | inside mark hidden =>
      cases hidden with
      | true => simp [search, searchClose, step]
      | false =>
          by_cases hback : c = '\\'
          · simp [search, searchClose, step, hback]
          · by_cases hmark : c = mark.char
            · subst hmark
              cases mark <;> simp [search, searchClose, step, QuoteMark.char]
            · simp [search, searchClose, step, hmark, hback]

/-- The search goes on behind a text in which no filter ends. -/
theorem search_append {d : Char} (hd : d ≠ ']') (hu : ¬[')', ']'] <:+: u) :
    q.search (u ++ d :: v) = u.foldr Search.cons ((q.behind u).search (d :: v)) := by
  induction u generalizing q with
  | nil => rfl
  | cons c u ih =>
      rw [List.cons_append, search_cons (.inr (not_prefix_close hd hu)),
        ih fun hin => hu (List.infix_cons_iff.mpr (.inr hin))]
      rfl

/-- Between quotes the end of a filter is passed over. -/
theorem search_close_inside (mark : QuoteMark) (hidden : Bool) (v : List Char) :
    (inside mark hidden).search (')' :: ']' :: v) =
      (((inside mark false).search v).cons ']').cons ')' := by
  cases mark <;> cases hidden <;> simp [search, searchClose, QuoteMark.char]

end Search

end Quoting

/-! ### Filters one behind the other -/

/-- Filters with some texts. -/
def filters (texts : List String) : List Char :=
  texts.flatMap fun t => '[' :: '?' :: '(' :: (t.toList ++ [')', ']'])

/-- A first filter and others. -/
theorem filters_cons (t : String) (texts : List String) :
    filters (t :: texts) =
      '[' :: '?' :: '(' :: (t.toList ++ ')' :: ']' :: filters texts) := by
  simp [filters]

/-- A quote is open at the end of a filter, and at the ends of all filters behind it. -/
def StaysQuoted : Quoting → List String → Prop
  | q, [] => q ≠ .outside
  | q, t :: texts => q ≠ .outside ∧ StaysQuoted (q.behind (")][?(" ++ t).toList) texts

/-- Every filter ends outside of quotes, or a quote is open there that is open at the ends of all
filters behind it. -/
def Delimited : List String → Prop
  | [] => True
  | t :: texts =>
    (Quoting.outside.behind t.toList = .outside ∨
      StaysQuoted (Quoting.outside.behind t.toList) texts) ∧ Delimited texts

instance decidableStaysQuoted : (q : Quoting) → (texts : List String) →
    Decidable (StaysQuoted q texts)
  | q, [] => inferInstanceAs (Decidable (q ≠ .outside))
  | q, t :: texts =>
    have := decidableStaysQuoted (q.behind (")][?(" ++ t).toList) texts
    inferInstanceAs (Decidable (q ≠ .outside ∧ _))

instance decidableDelimited : (texts : List String) → Decidable (Delimited texts)
  | [] => .isTrue trivial
  | _ :: texts =>
    have := decidableDelimited texts
    inferInstanceAs (Decidable ((_ ∨ _) ∧ Delimited texts))

/-- Filters are delimited where all but the last one close their quotes. -/
theorem delimited_of_dropLast {texts : List String}
    (h : ∀ t ∈ texts.dropLast, Quoting.outside.behind t.toList = .outside) : Delimited texts := by
  induction texts with
  | nil => trivial
  | cons t texts ih =>
      cases texts with
      | nil => exact ⟨Decidable.em _, trivial⟩
      | cons next texts =>
          rw [List.dropLast_cons_cons, List.forall_mem_cons] at h
          exact ⟨.inl h.1, ih h.2⟩

/-- No filter ends where one begins. -/
theorem not_infix_opening {t : List Char} (h : ¬[')', ']'] <:+: t) :
    ¬[')', ']'] <:+: '[' :: '?' :: '(' :: t := by
  intro hin
  rcases Text.infix_append_cons (u := ['[', '?']) (by decide) hin with hu | hv
  · exact absurd hu (by decide)
  · exact h hv

open Quoting in
/-- **The search from the end of a filter on ends between quotes exactly if the filters stay
quoted.** -/
theorem search_filters_iff {texts : List String} (hfree : ∀ t ∈ texts, ¬[')', ']'] <:+: t.toList)
    (q : Quoting) :
    q.search (')' :: ']' :: filters texts) = .insideQuotes ↔ StaysQuoted q texts := by
  induction texts generalizing q with
  | nil =>
      cases q with
      | outside => simp [search_close, StaysQuoted]
      | inside mark hidden =>
          rw [search_close_inside, cons_eq_insideQuotes_iff, cons_eq_insideQuotes_iff]
          simp [filters, search, searchClose, StaysQuoted]
  | cons t texts ih =>
      rw [List.forall_mem_cons] at hfree
      cases q with
      | outside => simp [search_close, StaysQuoted]
      | inside mark hidden =>
          have hnext := @search_append (inside mark false) _ (']' :: filters texts) ')'
            (by decide) (not_infix_opening hfree.1)
          have hopening : (inside mark hidden).behind (")][?(" ++ t).toList =
              (inside mark false).behind ('[' :: '?' :: '(' :: t.toList) := by
            rw [String.toList_append, behind_append]
            cases mark <;> cases hidden <;> rfl
          simp only [List.cons_append] at hnext
          rw [search_close_inside, cons_eq_insideQuotes_iff, cons_eq_insideQuotes_iff, filters_cons,
            hnext, foldr_cons_eq_insideQuotes_iff, ← hopening, StaysQuoted, and_iff_right (by simp)]
          exact ih hfree.2 _

open Quoting in
/-- The search for the end of a filter goes on from the quotes in which the filter ends. -/
theorem searchClose_append {t : List Char} (ht : ¬[')', ']'] <:+: t) (v : List Char) :
    searchClose none false (t ++ ')' :: ']' :: v) =
      t.foldr Search.cons ((outside.behind t).search (')' :: ']' :: v)) :=
  @search_append outside t (']' :: v) ')' (by decide) ht

open Quoting in
/-- A filter is closed at its end if it is delimited there. -/
theorem closeFilter_of_delimited {t : List Char} {texts : List String} (ht : ¬[')', ']'] <:+: t)
    (hfree : ∀ t ∈ texts, ¬[')', ']'] <:+: t.toList)
    (h : outside.behind t = .outside ∨ StaysQuoted (outside.behind t) texts) :
    closeFilter (t ++ ')' :: ']' :: filters texts) = some (t, filters texts) := by
  have hsearch := searchClose_append ht (filters texts)
  rcases h with hout | hquoted
  · rw [hout, search_close, foldr_cons_found, List.append_nil] at hsearch
    rw [closeFilter, hsearch]
  · rw [(search_filters_iff hfree _).mpr hquoted, foldr_cons_of_forall_ne (by simp)] at hsearch
    rw [closeFilter, hsearch]
    exact cutAtClose_append ht

open Quoting in
/-- What a filter that is not delimited is closed at, if anything, is the end of another filter. -/
theorem infix_of_closeFilter {t f v : List Char} {texts : List String} (ht : ¬[')', ']'] <:+: t)
    (hfree : ∀ t ∈ texts, ¬[')', ']'] <:+: t.toList)
    (h : ¬(outside.behind t = .outside ∨ StaysQuoted (outside.behind t) texts))
    (hclose : closeFilter (t ++ ')' :: ']' :: filters texts) = some (f, v)) :
    [')', ']'] <:+: f := by
  rw [not_or] at h
  have hsearch := searchClose_append ht (filters texts)
  cases hx : (outside.behind t).search (')' :: ']' :: filters texts) with
  | insideQuotes => exact absurd ((search_filters_iff hfree _).mp hx) h.2
  | missing =>
      rw [hx, foldr_cons_of_forall_ne (by simp)] at hsearch
      rw [closeFilter, hsearch] at hclose
      exact absurd hclose (by simp)
  | found g w =>
      rw [hx, foldr_cons_found] at hsearch
      rw [closeFilter, hsearch, Option.some.injEq, Prod.mk.injEq] at hclose
      cases hout : outside.behind t with
      | outside => exact absurd hout h.1
      | inside mark hidden =>
          rw [hout, search_close_inside] at hx
          cases hrest : (inside mark false).search (filters texts) with
          | found g' w' =>
              rw [hrest] at hx
              obtain ⟨rfl, -⟩ := Search.found.inj hx
              rw [← hclose.1]
              exact ⟨t, g', by simp⟩
          | missing | insideQuotes =>
              rw [hrest] at hx
              exact absurd hx (by simp [Search.cons])

/-! ### Reading filters -/

section Reading

variable {ε φ : Type} (wrap : PathFault → ε) (readFilter : String → Except ε φ)

/-- A filter is read up to where it closes. -/
theorem readSegments_filter (fuel : Nat) (body : List Char) :
    readSegments wrap readFilter (fuel + 1) ('[' :: '?' :: '(' :: body) =
      match closeFilter body with
      | none => .error (wrap .openFilter)
      | some (filter, behind) =>
        match readFilter (String.ofList filter) with
        | .error e => .error e
        | .ok c => (readSegments wrap readFilter fuel behind).map (.filter c :: ·) := by
  rw [readSegments]
  rfl

end Reading

/-- The source of a condition is its text without the blanks at its ends. -/
theorem source_of_parse {t : String} {c : Condition} (h : Condition.parse t = .ok c) :
    c.source = trimmed t := by
  obtain ⟨clause, -, rfl⟩ := map_eq_ok_iff.mp h
  rfl

open Quoting in
/-- Of a filter that is not delimited the text is not the source of what is read. -/
theorem source_ne_of_readSegments {wrap : PathFault → Error} {t : String} {texts : List String}
    (ht : ¬[')', ']'] <:+: t.toList) (hfree : ∀ t ∈ texts, ¬[')', ']'] <:+: t.toList)
    (h : ¬(outside.behind t.toList = .outside ∨ StaysQuoted (outside.behind t.toList) texts))
    {fuel : Nat} {c : Condition} {path : Path}
    (hread : readSegments wrap Condition.parse (fuel + 1) (filters (t :: texts)) =
      .ok (.filter c :: path)) : c.source ≠ trimmed t := by
  intro hsource
  rw [filters_cons, readSegments_filter] at hread
  split at hread
  · simp at hread
  · next f behind hclose =>
      split at hread
      · simp at hread
      · next c' hc =>
          obtain ⟨path', -, heq⟩ := map_eq_ok_iff.mp hread
          obtain rfl := Segment.filter.inj (List.cons.inj heq).1
          rw [source_of_parse hc] at hsource
          have htrim : Text.trim f = Text.trim t.toList := by
            simpa [trimmed] using String.ofList_injective hsource
          have hblank : ∀ c ∈ [')', ']'], Text.isBlank c = false :=
            List.forall_mem_cons.mpr ⟨rfl, List.forall_mem_singleton.mpr rfl⟩
          have hend : [')', ']'] <:+: Text.trim f :=
            (Text.infix_trim_iff (by simp) hblank).mpr (infix_of_closeFilter ht hfree h hclose)
          rw [htrim] at hend
          exact ht (hend.trans (Text.trim_isInfix _))

/-- **Filters one behind the other are read one by one exactly if they are delimited.** -/
theorem readSegments_filters_iff (wrap : PathFault → Error) {texts : List String}
    (hfree : ∀ t ∈ texts, ¬[')', ']'] <:+: t.toList)
    (hread : ∀ t ∈ texts, ∃ c, Condition.parse t = .ok c) (fuel : Nat)
    (hfuel : (filters texts).length ≤ fuel) :
    (∃ cs : List Condition,
      readSegments wrap Condition.parse fuel (filters texts) = .ok (cs.map .filter) ∧
        cs.map Condition.source = texts.map trimmed) ↔ Delimited texts := by
  induction texts generalizing fuel with
  | nil => exact iff_of_true ⟨[], by simp [filters, readSegments], rfl⟩ trivial
  | cons t texts ih =>
      rw [List.forall_mem_cons] at hfree hread
      have hlength : (filters texts).length + 1 ≤ fuel := by
        refine le_trans ?_ hfuel
        simp only [filters_cons, List.length_cons, List.length_append]
        omega
      obtain ⟨fuel, rfl⟩ : ∃ n, fuel = n + 1 := ⟨fuel - 1, by omega⟩
      rw [Delimited]
      by_cases hclosed : Quoting.outside.behind t.toList = .outside ∨
          StaysQuoted (Quoting.outside.behind t.toList) texts
      · obtain ⟨c, hc⟩ := hread.1
        have hfirst : readSegments wrap Condition.parse (fuel + 1) (filters (t :: texts)) =
            (readSegments wrap Condition.parse fuel (filters texts)).map (.filter c :: ·) := by
          rw [filters_cons, readSegments_filter]
          simp only [closeFilter_of_delimited hfree.1 hfree.2 hclosed, String.ofList_toList, hc]
        rw [and_iff_right hclosed, ← ih hfree.2 hread.2 fuel (by omega), hfirst]
        constructor
        · rintro ⟨cs, hcs, hsources⟩
          obtain ⟨path, hpath, heq⟩ := map_eq_ok_iff.mp hcs
          obtain ⟨c', cs, rfl, -, rfl⟩ := List.map_eq_cons_iff.mp heq.symm
          exact ⟨cs, hpath, (List.cons.inj hsources).2⟩
        · rintro ⟨cs, hcs, hsources⟩
          exact ⟨c :: cs, by rw [hcs]; rfl, by simp [source_of_parse hc, hsources]⟩
      · refine iff_of_false ?_ fun h => hclosed h.1
        rintro ⟨cs, hcs, hsources⟩
        obtain ⟨c, cs, rfl, hsource, -⟩ := List.map_eq_cons_iff.mp hsources
        exact source_ne_of_readSegments hfree.1 hfree.2 hclosed hcs hsource

end PathText

/-! ### Paths of filters -/

/-- The text of a path of filters with some texts. -/
def Path.filtersText (texts : List String) : String :=
  "$" ++ String.join (texts.map fun t => "[?(" ++ t ++ ")]")

/-- The characters of a path of filters. -/
theorem Path.toList_filtersText (texts : List String) :
    (filtersText texts).toList = '$' :: PathText.filters texts := by
  simp [filtersText, PathText.filters, String.toList_join, List.flatMap_map]

open PathText in
/-- **Filters one behind the other are read back exactly if they are delimited**: the path then has
a filter for each of the conditions, in their order, with its text as the source. -/
theorem parse_filtersText_iff {texts : List String}
    (hfree : ∀ t ∈ texts, ¬[')', ']'] <:+: t.toList)
    (hread : ∀ t ∈ texts, ∃ c, Condition.parse t = .ok c) :
    (∃ cs : List Condition, Path.parse (Path.filtersText texts) = .ok (cs.map .filter) ∧
      cs.map Condition.source = texts.map trimmed) ↔ Delimited texts := by
  have htrim : Text.trim ('$' :: filters texts) = '$' :: filters texts := by
    rcases List.eq_nil_or_concat texts with rfl | ⟨start, t, rfl⟩
    · rfl
    · have hlast := @Text.trim_cons_concat '$' ']' (by decide) (by decide)
        (filters start ++ '[' :: '?' :: '(' :: (t.toList ++ [')']))
      simpa [filters] using hlast
  have hroot : withoutRoot ('$' :: filters texts) = filters texts := by
    cases texts with
    | nil => rfl
    | cons t texts => rw [filters_cons]; rfl
  rw [Path.parse, parseSegments, Path.toList_filtersText, htrim, hroot]
  exact readSegments_filters_iff _ hfree hread _ (Nat.le_refl _)

/-- An apostrophe in a pattern, quotes of the other kind behind it, and an apostrophe behind a
backslash. -/
def openedFilters : List String := ["@.s =~ /it's/", " @.t == \"a)\" && @.v ", "@.u == it\\'s"]

open PathText in
/-- Behind an apostrophe that no other one closes, filters are still read one by one. -/
theorem parse_filtersText_iff_openedFilters :
    (∀ t ∈ openedFilters, ¬[')', ']'] <:+: t.toList) ∧
      (∀ t ∈ openedFilters, ∃ c, Condition.parse t = .ok c) ∧ Delimited openedFilters ∧
      ∃ cs : List Condition, Path.parse (Path.filtersText openedFilters) = .ok (cs.map .filter) ∧
        cs.map Condition.source = openedFilters.map trimmed := by
  have hfree : ∀ t ∈ openedFilters, ¬[')', ']'] <:+: t.toList := by decide
  have haccepted : ∀ t ∈ openedFilters, (Condition.parse t).isOk = true := by decide +kernel
  have hread : ∀ t ∈ openedFilters, ∃ c, Condition.parse t = .ok c := fun t ht =>
    isOk_iff.mp (haccepted t ht)
  have hdelimited : Delimited openedFilters := by decide +kernel
  exact ⟨hfree, hread, hdelimited, (parse_filtersText_iff hfree hread).mpr hdelimited⟩

/-- Two matches with an apostrophe each. -/
def twoApostrophes : List String := ["@.s =~ /it's/", "@.t =~ /it's/"]

/-- Of two matches with an apostrophe each the second one closes the quote that the first one opens,
and the path is not read at all. -/
theorem not_forall_parse_filtersText :
    ¬∀ texts : List String, texts ≠ [] → (∀ t ∈ texts, ¬[')', ']'] <:+: t.toList) →
      (∀ t ∈ texts, ∃ c, Condition.parse t = .ok c) →
      ∃ cs : List Condition, Path.parse (Path.filtersText texts) = .ok (cs.map .filter) ∧
        cs.map Condition.source = texts.map trimmed := by
  intro h
  have haccepted : ∀ t ∈ twoApostrophes, (Condition.parse t).isOk = true := by decide +kernel
  have hfails : (Path.parse (Path.filtersText twoApostrophes)).isOk = false := by decide +kernel
  obtain ⟨cs, hread, -⟩ := h twoApostrophes (by decide) (by decide) fun t ht =>
    isOk_iff.mp (haccepted t ht)
  rw [hread] at hfails
  exact Bool.noConfusion hfails

end JsonWorkbench
