import JsonWorkbench.Proofs.Condition.Match

/-!
# Words for Operators

Before a condition is read, the words `AND` and `OR` between blanks become `&&` and `||`, wherever
they stand. A word is found at a place of the text: blanks, its letters in whatever case, and
blanks again. A text without the word stays as it is; from a text with the word, its operator comes
out; and the signs of operators that the text has of its own stay.

So a text joins no clauses, either by operators or by words, exactly if no operator is in what
comes out. Whether it does can be checked piece by piece, as no operator and no word reaches across
a character that is neither a blank nor in them.

## Main definitions

* `HasWord` — a word between blanks.
* `JoinsNothing` — a text has no word and no operator that joins clauses.

## Main results

* `hasWord_iff` — a word is found exactly where there is one.
* `JoinsNothing.append_cons` — a text joins nothing if its pieces do not.
* `normalizeWords_of_joinsNothing` — a text that joins nothing stays as it is.
* `joinsNothing_iff_normalizeWords` — no operator comes out exactly of such a text.
-/

namespace JsonWorkbench

namespace ConditionText

/-! ### Words between blanks -/

/-- A text has a word between blanks, in whatever case. -/
def HasWord (word cs : List Char) : Prop :=
  ∃ before letters behind, Text.isBlank before = true ∧ Text.isBlank behind = true ∧
    letters.map Char.toUpper = word ∧ before :: (letters ++ [behind]) <:+: cs

section Words

variable {word u v cs : List Char} {c : Char}

/-- A word in a part of a text is one in the text. -/
theorem HasWord.mono (h : HasWord word u) (hpart : u <:+: cs) : HasWord word cs := by
  obtain ⟨before, letters, behind, hbefore, hbehind, hletters, hinfix⟩ := h
  exact ⟨before, letters, behind, hbefore, hbehind, hletters, hinfix.trans hpart⟩

/-- A word does not reach across a character that is neither a blank nor one of its letters. -/
theorem HasWord.of_append_cons (hblank : Text.isBlank c = false) (hword : c.toUpper ∉ word)
    (h : HasWord word (u ++ c :: v)) : HasWord word u ∨ HasWord word v := by
  obtain ⟨before, letters, behind, hbefore, hbehind, rfl, hinfix⟩ := h
  have hc : c ∉ before :: (letters ++ [behind]) := by
    rw [List.mem_cons, List.mem_append, List.mem_singleton]
    rintro (rfl | hmem | rfl)
    · exact Bool.noConfusion (hblank.symm.trans hbefore)
    · exact hword (List.mem_map_of_mem hmem)
    · exact Bool.noConfusion (hblank.symm.trans hbehind)
  exact (Text.infix_append_cons hc hinfix).imp
    (fun hu => ⟨before, letters, behind, hbefore, hbehind, rfl, hu⟩)
    (fun hv => ⟨before, letters, behind, hbefore, hbehind, rfl, hv⟩)

/-- There are two blanks beside a word. -/
theorem HasWord.two_le_countP (h : HasWord word cs) : 2 ≤ cs.countP Text.isBlank := by
  obtain ⟨before, letters, behind, hbefore, hbehind, -, hinfix⟩ := h
  calc
    2 ≤ (before :: (letters ++ [behind])).countP Text.isBlank := by
        rw [List.countP_cons_of_pos hbefore, List.countP_append,
          List.countP_singleton, if_pos hbehind]
        omega
    _ ≤ cs.countP Text.isBlank := hinfix.sublist.countP_le

/-- What is found is a word between blanks, which ends where the rest begins. -/
theorem exists_of_afterWord? {rest : List Char} (h : afterWord? word cs = some rest) :
    ∃ gap letters gap', cs = gap ++ (letters ++ (gap' ++ rest)) ∧ gap ≠ [] ∧ gap' ≠ [] ∧
      (∀ c ∈ gap ++ gap', Text.isBlank c = true) ∧ letters.map Char.toUpper = word := by
  cases cs with
  | nil => simp [afterWord?] at h
  | cons c cs =>
      rw [afterWord?] at h
      split at h
      · next hc =>
          obtain ⟨gap, behind, hcs, hgap, hbehind, hne⟩ := Text.exists_run_of_head hc cs
          rw [hcs, Text.trimStart_append hgap hbehind] at h
          dsimp only at h
          split at h
          · next hword =>
              rw [Bool.and_eq_true, decide_eq_true_eq, Option.any_eq_true] at hword
              obtain ⟨hletters, b, hb, hblank⟩ := hword
              obtain ⟨more, hmore⟩ := List.head?_eq_some_iff.mp hb
              obtain ⟨gap', rest', hrest, hgap', hrest', hne'⟩ :=
                Text.exists_run_of_head hblank more
              rw [hmore, hrest, Text.trimStart_append hgap' hrest', Option.some.injEq] at h
              refine ⟨gap, behind.take word.length, gap', ?_, hne, hne', ?_, hletters⟩
              · rw [hcs, ← h, ← hrest, ← hmore, List.take_append_drop]
              · simpa [or_imp, forall_and] using And.intro hgap hgap'
          · simp at h
      · simp at h

/-- Where a word is found there is one. -/
theorem hasWord_of_afterWord? {rest : List Char} (h : afterWord? word cs = some rest) :
    HasWord word cs := by
  obtain ⟨gap, letters, gap', rfl, hne, hne', hblank, hletters⟩ := exists_of_afterWord? h
  obtain ⟨start, before, rfl⟩ : ∃ start before, gap = start ++ [before] :=
    ⟨_, _, (List.dropLast_concat_getLast hne).symm⟩
  obtain ⟨behind, more, rfl⟩ := List.exists_cons_of_ne_nil hne'
  exact ⟨before, letters, behind, hblank _ (by simp), hblank _ (by simp), hletters, start,
    more ++ rest, by simp⟩

/-- A blank is the same in upper case. -/
theorem toUpper_of_isBlank {c : Char} (h : Text.isBlank c = true) : c.toUpper = c := by
  have hall : ∀ n ∈ blankPoints, (Char.ofNat n).toUpper = Char.ofNat n := by decide +kernel
  rw [← Char.ofNat_toNat c]
  exact hall _ (toNat_mem_blankPoints h)

/-- A word between blanks at the start of a text is found. -/
theorem isSome_afterWord? {w before behind : Char} {letters rest : List Char}
    (hw : Text.isBlank w = false) (hbefore : Text.isBlank before = true)
    (hbehind : Text.isBlank behind = true) (hletters : letters.map Char.toUpper = w :: word) :
    (afterWord? (w :: word) (before :: (letters ++ behind :: rest))).isSome = true := by
  obtain ⟨l, letters, rfl, hl, -⟩ := List.map_eq_cons_iff.mp hletters
  have hfirst : Text.isBlank l = false := by
    rw [← Bool.not_eq_true]
    intro hblank
    rw [← toUpper_of_isBlank hblank, hl, hw] at hblank
    exact Bool.noConfusion hblank
  have htrim : Text.trimStart (before :: (l :: letters ++ behind :: rest)) =
      l :: letters ++ behind :: rest :=
    @Text.trimStart_append [before] _ (by simpa using hbefore) (Text.stops_cons.mpr hfirst)
  have hlength : (w :: word).length = (l :: letters).length := by
    rw [← hletters, List.length_map]
  simp only [afterWord?, hbefore, if_true, htrim, hlength, List.take_left, List.drop_left, hletters]
  simp [hbehind]

/-- A text has a word exactly if the word is found at one of its places. -/
theorem hasWord_iff {w : Char} (hw : Text.isBlank w = false) :
    HasWord (w :: word) cs ↔ ∃ t ∈ cs.tails, (afterWord? (w :: word) t).isSome = true := by
  constructor
  · rintro ⟨before, letters, behind, hbefore, hbehind, hletters, start, rest, rfl⟩
    refine ⟨before :: (letters ++ behind :: rest), ?_,
      isSome_afterWord? hw hbefore hbehind hletters⟩
    exact (List.mem_tails _ _).mpr ⟨start, by simp⟩
  · rintro ⟨t, ht, hsome⟩
    obtain ⟨rest, hrest⟩ := Option.isSome_iff_exists.mp hsome
    exact (hasWord_of_afterWord? hrest).mono ((List.mem_tails _ _).mp ht).isInfix

instance : Decidable (HasWord "AND".toList cs) :=
  decidable_of_iff _ (@hasWord_iff ['N', 'D'] cs 'A' rfl).symm

instance : Decidable (HasWord "OR".toList cs) :=
  decidable_of_iff _ (@hasWord_iff ['R'] cs 'O' rfl).symm

/-- A text without a word stays as it is when the word is replaced. -/
theorem replaceWordFrom_of_not_hasWord (h : ¬HasWord word cs) (by' : List Char) :
    replaceWordFrom word by' 0 cs = cs := by
  induction cs with
  | nil => rfl
  | cons c cs ih =>
      have hnone : afterWord? word (c :: cs) = none := by
        rw [Option.eq_none_iff_forall_ne_some]
        exact fun rest hrest => h (hasWord_of_afterWord? hrest)
      have hrest : ¬HasWord word cs := fun hword => h (hword.mono (List.suffix_cons c cs).isInfix)
      rw [replaceWordFrom.eq_def]
      simp only [hnone, ih hrest]

/-- A word in a text is replaced. -/
theorem HasWord.infix_replaceWordFrom {w : Char} (hw : Text.isBlank w = false)
    (h : HasWord (w :: word) cs) (by' : List Char) :
    by' <:+: replaceWordFrom (w :: word) by' 0 cs := by
  induction cs with
  | nil => exact absurd h.two_le_countP (by decide)
  | cons c cs ih =>
      rw [replaceWordFrom.eq_def]
      dsimp only
      split
      · exact (List.prefix_append by' _).isInfix
      · next hnone =>
          obtain ⟨before, letters, behind, hbefore, hbehind, hletters, hinfix⟩ := h
          refine List.infix_cons_iff.mpr (.inr (ih ?_))
          rcases List.infix_cons_iff.mp hinfix with ⟨rest, hrest⟩ | hinfix
          · have hsome : (afterWord? (w :: word) (before :: (letters ++ behind :: rest))).isSome =
                true := isSome_afterWord? hw hbefore hbehind hletters
            have hcs : before :: (letters ++ behind :: rest) = c :: cs := by simpa using hrest
            rw [hcs, hnone] at hsome
            exact Bool.noConfusion hsome
          · exact ⟨before, letters, behind, hbefore, hbehind, hletters, hinfix⟩

/-- In what is found there is no character that is neither a blank nor a letter of the word. -/
theorem exists_append_of_afterWord? {d : Char} {rest : List Char} (hblank : Text.isBlank d = false)
    (hd : d.toUpper ∉ word) (h : afterWord? word (c :: cs) = some rest) :
    d ≠ c ∧ ∃ found, cs = found ++ rest ∧ d ∉ found := by
  obtain ⟨gap, letters, gap', hcs, hne, -, hgaps, rfl⟩ := exists_of_afterWord? h
  obtain ⟨b, gap, rfl⟩ := List.exists_cons_of_ne_nil hne
  rw [List.cons_append] at hcs
  obtain ⟨rfl, rfl⟩ := List.cons.inj hcs
  have hno : d ∉ c :: gap ++ gap' := fun hmem => by
    rw [hgaps d hmem] at hblank
    exact Bool.noConfusion hblank
  have hletters : d ∉ letters := fun hmem => hd (List.mem_map_of_mem hmem)
  rw [List.cons_append, List.mem_cons, List.mem_append, not_or, not_or] at hno
  exact ⟨hno.1, gap ++ (letters ++ gap'), by simp, by simp [hno.2, hletters]⟩

/-- A doubled sign of an operator stays where words are replaced. -/
theorem doubled_infix_replaceWordFrom {d : Char} (hblank : Text.isBlank d = false)
    (hd : d.toUpper ∉ word) (by' : List Char) (skip : Nat) (cs : List Char)
    (hskip : d ∉ cs.take skip) (h : [d, d] <:+: cs) :
    [d, d] <:+: replaceWordFrom word by' skip cs := by
  fun_induction replaceWordFrom word by' skip cs with
  | case1 => exact h
  | case2 skip c cs ih =>
      rw [List.take_succ_cons, List.mem_cons, not_or] at hskip
      refine ih hskip.2 ((List.infix_cons_iff.mp h).resolve_left fun hpre => ?_)
      exact hskip.1 (List.cons_prefix_cons.mp hpre).1
  | case3 c cs rest hfound ih =>
      obtain ⟨hne, found, rfl, hno⟩ := exists_append_of_afterWord? hblank hd hfound
      have hin := (List.infix_cons_iff.mp h).resolve_left fun hpre =>
        hne (List.cons_prefix_cons.mp hpre).1
      refine (ih ?_ hin).trans (List.suffix_append by' _).isInfix
      rwa [List.length_append, Nat.add_sub_cancel, List.take_left]
  | case4 c cs hnone ih =>
      rcases List.infix_cons_iff.mp h with hpre | hin
      · obtain ⟨rfl, hrest⟩ := List.cons_prefix_cons.mp hpre
        obtain ⟨rest, rfl⟩ := hrest
        have hnext : afterWord? word (d :: rest) = none := by simp [afterWord?, hblank]
        have hstay : replaceWordFrom word by' 0 ([d] ++ rest) =
            d :: replaceWordFrom word by' 0 rest := by
          rw [replaceWordFrom.eq_def]
          simp only [List.cons_append, List.nil_append, hnext]
        rw [hstay]
        exact ⟨[], _, rfl⟩
      · exact List.infix_cons_iff.mpr (.inr (ih (by simp) hin))

end Words

/-! ### Texts that join nothing -/

/-- A text has no operator that joins clauses, and no word that stands for one. -/
structure JoinsNothing (cs : List Char) : Prop where
  /-- It has no "all of". -/
  noAll : ¬['&', '&'] <:+: cs
  /-- It has no "any of". -/
  noAny : ¬['|', '|'] <:+: cs
  /-- It has no word for "all of". -/
  noAnd : ¬HasWord "AND".toList cs
  /-- It has no word for "any of". -/
  noOr : ¬HasWord "OR".toList cs

section Joins

variable {u v cs : List Char} {c : Char}

/-- What it takes to join nothing can be checked. -/
theorem joinsNothing_iff :
    JoinsNothing cs ↔ ¬['&', '&'] <:+: cs ∧ ¬['|', '|'] <:+: cs ∧ ¬HasWord "AND".toList cs ∧
      ¬HasWord "OR".toList cs :=
  ⟨fun h => ⟨h.noAll, h.noAny, h.noAnd, h.noOr⟩, fun h => ⟨h.1, h.2.1, h.2.2.1, h.2.2.2⟩⟩

instance : Decidable (JoinsNothing cs) := decidable_of_iff _ joinsNothing_iff.symm

/-- A part of a text that joins nothing joins nothing. -/
theorem JoinsNothing.mono (h : JoinsNothing cs) (hpart : u <:+: cs) : JoinsNothing u where
  noAll hin := h.noAll (hin.trans hpart)
  noAny hin := h.noAny (hin.trans hpart)
  noAnd hword := h.noAnd (hword.mono hpart)
  noOr hword := h.noOr (hword.mono hpart)

/-- **A text joins nothing if its pieces do not**, where the character between them is no blank and
in no operator. -/
theorem JoinsNothing.append_cons (hblank : Text.isBlank c = false)
    (hc : c.toUpper ∉ ['A', 'N', 'D', 'O', 'R']) (hsign : c ∉ ['&', '|']) (hu : JoinsNothing u)
    (hv : JoinsNothing v) : JoinsNothing (u ++ c :: v) where
  noAll h := (Text.infix_append_cons (by simp_all) h).elim hu.noAll hv.noAll
  noAny h := (Text.infix_append_cons (by simp_all) h).elim hu.noAny hv.noAny
  noAnd h := (h.of_append_cons hblank (by simp_all)).elim hu.noAnd hv.noAnd
  noOr h := (h.of_append_cons hblank (by simp_all)).elim hu.noOr hv.noOr

/-- A text without the signs of operators and with one blank at most joins nothing. -/
theorem joinsNothing_of_countP (hblanks : cs.countP Text.isBlank < 2) (hall : '&' ∉ cs)
    (hany : '|' ∉ cs) : JoinsNothing cs where
  noAll h := hall (h.subset (by simp))
  noAny h := hany (h.subset (by simp))
  noAnd h := absurd h.two_le_countP (by omega)
  noOr h := absurd h.two_le_countP (by omega)

end Joins

/-- A text that joins nothing has no words for operators. -/
theorem normalizeWords_of_joinsNothing {text : String} (h : JoinsNothing text.toList) :
    normalizeWords text = text := by
  rw [normalizeWords, replaceWordFrom_of_not_hasWord h.noAnd,
    replaceWordFrom_of_not_hasWord h.noOr, String.ofList_toList]

/-- **A text joins nothing exactly if no operator comes out of it.** -/
theorem joinsNothing_iff_normalizeWords {text : String} :
    JoinsNothing text.toList ↔
      ¬['&', '&'] <:+: (normalizeWords text).toList ∧
        ¬['|', '|'] <:+: (normalizeWords text).toList := by
  have hall : ∀ {cs}, ['&', '&'] <:+: cs →
      ['&', '&'] <:+: replaceWordFrom "OR".toList " || ".toList 0 cs := fun h =>
    doubled_infix_replaceWordFrom (by decide) (by decide) _ 0 _ (by simp) h
  have hnormal : (normalizeWords text).toList = replaceWordFrom "OR".toList " || ".toList 0
      (replaceWordFrom "AND".toList " && ".toList 0 text.toList) := String.toList_ofList
  constructor
  · intro h
    rw [normalizeWords_of_joinsNothing h]
    exact ⟨h.noAll, h.noAny⟩
  · rintro ⟨hnoAll, hnoAny⟩
    rw [hnormal] at hnoAll hnoAny
    have hand : ¬HasWord "AND".toList text.toList := fun hword => by
      have hout : " && ".toList <:+: _ :=
        @HasWord.infix_replaceWordFrom ['N', 'D'] _ 'A' rfl hword " && ".toList
      exact hnoAll (hall (List.IsInfix.trans ⟨[' '], [' '], rfl⟩ hout))
    rw [replaceWordFrom_of_not_hasWord hand] at hnoAll hnoAny
    refine ⟨fun h => hnoAll (hall h), fun h => hnoAny ?_, hand, fun hword => hnoAny ?_⟩
    · exact doubled_infix_replaceWordFrom (by decide) (by decide) _ 0 _ (by simp) h
    · have hout : " || ".toList <:+: _ :=
        @HasWord.infix_replaceWordFrom ['R'] _ 'O' rfl hword " || ".toList
      exact List.IsInfix.trans ⟨[' '], [' '], rfl⟩ hout

end ConditionText

end JsonWorkbench
