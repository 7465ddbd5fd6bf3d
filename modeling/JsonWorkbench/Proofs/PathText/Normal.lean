import JsonWorkbench.Proofs.Condition.Clause
import JsonWorkbench.Proofs.Numeral.Double
import JsonWorkbench.Proofs.PathFilter

/-!
# Printing Normalizes Paths

A path has many texts. The sign of the root and the dot of a first name can be left out, blanks in
brackets count for nothing, numbers can have a sign and zeros in front, and a name behind a dot can
have blanks and closing brackets in it. Printing chooses one text of them all, in which such a name
stands in quotes and brackets.

That text is read as the same path again. Reading takes one segment after another, and what it takes
from a text without quotes is a segment that is read back from its printed form, whatever segments
follow. Between the first segment and the sign of the root there is nothing to absorb; behind the
last one there is the end of the text, where blanks are trimmed, but the last name of a text that is
trimmed already does not end in one.

## Main definitions

* `Segment.IsReadable` — the segments that are read back from their texts.

## Main results

* `exists_of_readSegments` — what one step of reading takes.
* `parseSegments_segmentsText` — paths of such segments are read back.
* `parse_text_of_parse` — what is read from a text without quotes is read back.
-/

namespace JsonWorkbench

/-! ### The ends of texts -/

namespace Text

/-- A text does not end in a blank. -/
def EndsSolid (cs : List Char) : Prop := ∀ c, cs.getLast? = some c → isBlank c = false

/-- The last character of a text decides how it ends. -/
theorem endsSolid_concat {cs : List Char} {c : Char} :
    EndsSolid (cs ++ [c]) ↔ isBlank c = false := by
  simp [EndsSolid]

/-- A text ends as what stands last in it. -/
theorem endsSolid_append {cs ds : List Char} (hds : ds ≠ []) :
    EndsSolid (cs ++ ds) ↔ EndsSolid ds := by
  rw [EndsSolid, List.getLast?_append_of_ne_nil cs hds, EndsSolid]

/-- The end of a text ends as the text. -/
theorem EndsSolid.of_suffix {cs ds : List Char} (h : EndsSolid cs) (hds : ds <:+ cs) :
    EndsSolid ds := by
  obtain ⟨start, rfl⟩ := hds
  rcases eq_or_ne ds [] with rfl | hne
  · simp [EndsSolid]
  · exact (endsSolid_append hne).mp h

/-- A text is not trimmed that begins and ends with no blank. -/
theorem trim_cons_of_endsSolid {c : Char} {cs : List Char} (hc : isBlank c = false)
    (h : EndsSolid (c :: cs)) : trim (c :: cs) = c :: cs := by
  rcases List.eq_nil_or_concat cs with rfl | ⟨start, d, rfl⟩
  · exact trim_of_forall_not (by simpa using hc)
  · rw [List.concat_eq_append, ← List.cons_append, endsSolid_concat] at h
    rw [List.concat_eq_append]
    exact trim_cons_concat hc h start

/-- What is trimmed does not end in a blank. -/
theorem endsSolid_trim (cs : List Char) : EndsSolid (trim cs) := by
  obtain ⟨-, -, -, hnil | ⟨start, c, heq, hc⟩⟩ := exists_dropEndWhile isBlank (trimStart cs)
  · rw [trim, trimEnd, hnil]
    simp [EndsSolid]
  · rw [trim, trimEnd, heq]
    exact endsSolid_concat.mpr hc

end Text

/-! ### Conditions -/

/-- A condition is read from the text without the blanks at its ends as from the text itself. -/
theorem ConditionText.readClause_trimmed (t : String) :
    readClause (trimmed t) (trimmed t).toList = readClause t t.toList := by
  have hname : trimmed (trimmed t) = trimmed t := by simp [trimmed, Text.trim_trim]
  have hfield : readField (trimmed t) = readField t := by
    funext token
    simp only [readField, hname]
  have hpattern : readPattern (trimmed t) = readPattern t := by
    funext pattern flags
    simp only [readPattern, hname]
  have hmatch : readMatch? (trimmed t) = readMatch? t := by
    funext cs
    simp only [readMatch?, hfield, hpattern]
  have hsimple : readSimple (trimmed t) = readSimple t := by
    funext cs
    simp only [readSimple, hfield]
  have hany : readAny (trimmed t) = readAny t := by
    funext cs
    simp only [readAny, hmatch, hsimple]
  have htrim : Text.trim (trimmed t).toList = Text.trim t.toList := by
    simp [trimmed, Text.trim_trim]
  simp only [readClause, htrim, hmatch, hany]

/-- **A condition is read back from its source.** -/
theorem Condition.parse_source {t : String} {c : Condition} (h : Condition.parse t = .ok c) :
    Condition.parse c.source = .ok c := by
  obtain ⟨clause, hclause, rfl⟩ := map_eq_ok_iff.mp h
  have hname : trimmed (trimmed t) = trimmed t := by simp [trimmed, Text.trim_trim]
  simp only [Condition.parse, ConditionText.readClause_trimmed, hclause, hname, Except.map]

namespace PathText

/-! ### Texts without quotes -/

/-- A text has no quotes of either kind. -/
def Unquoted (cs : List Char) : Prop := '\'' ∉ cs ∧ '"' ∉ cs

/-- A part of a text without quotes has none. -/
theorem Unquoted.mono {cs ds : List Char} (h : Unquoted ds) (hsub : cs ⊆ ds) : Unquoted cs :=
  ⟨fun hmem => h.1 (hsub hmem), fun hmem => h.2 (hsub hmem)⟩

/-- A character of a text without quotes leaves the text outside of quotes. -/
theorem Unquoted.step_eq {c : Char} {cs : List Char} (h : Unquoted (c :: cs)) :
    Quoting.outside.step c = .outside := by
  have hsingle : c ≠ '\'' := fun heq => h.1 (by simp [heq])
  have hdouble : c ≠ '"' := fun heq => h.2 (by simp [heq])
  simp [Quoting.step, QuoteMark.ofChar?, hsingle, hdouble]

/-- No quotes are open behind a text that has none. -/
theorem Unquoted.behind_eq {cs : List Char} (h : Unquoted cs) :
    Quoting.outside.behind cs = .outside := by
  induction cs with
  | nil => rfl
  | cons c cs ih =>
      rw [Quoting.behind, List.foldl_cons, h.step_eq]
      exact ih (h.mono (List.subset_cons_self ..))

/-- In a text without quotes and without the end of a filter, no end is found. -/
theorem Unquoted.search_eq_missing {cs : List Char} (h : Unquoted cs)
    (hfree : ¬[')', ']'] <:+: cs) : Quoting.outside.search cs = .missing := by
  induction cs with
  | nil => rfl
  | cons c cs ih =>
      rw [List.infix_cons_iff, not_or] at hfree
      rw [Quoting.search_cons (.inr hfree.1), h.step_eq,
        ih (h.mono (List.subset_cons_self ..)) hfree.2]
      rfl

/-- A filter without quotes is closed at its end. -/
theorem closeFilter_append {t : List Char} (hquote : Unquoted t) (hfree : ¬[')', ']'] <:+: t)
    (rest : List Char) : closeFilter (t ++ ')' :: ']' :: rest) = some (t, rest) := by
  have hsearch := searchClose_append hfree rest
  rw [hquote.behind_eq, Quoting.search_close, foldr_cons_found, List.append_nil] at hsearch
  rw [closeFilter, hsearch]

/-- In a text without quotes a filter reaches up to the first end of one. -/
theorem exists_of_closeFilter {body t rest : List Char} (hquote : Unquoted body)
    (h : closeFilter body = some (t, rest)) :
    body = t ++ ')' :: ']' :: rest ∧ ¬[')', ']'] <:+: t := by
  have hne : [')', ']'] ≠ [] := by simp
  cases hcut : cutAtClose body with
  | none =>
      have hnone : Text.hasText [')', ']'] body = false := congrArg Option.isSome hcut
      have hfree : ¬[')', ']'] <:+: body := by
        rw [← Text.hasText_iff, hnone]
        exact Bool.false_ne_true
      have hmissing : searchClose none false body = .missing := hquote.search_eq_missing hfree
      simp [closeFilter, hmissing] at h
  | some parts =>
      obtain ⟨u, v⟩ := parts
      obtain ⟨rfl, hends⟩ := (Text.cutAt_eq_some_iff hne).mp hcut
      have hfree := hends.not_infix hne
      have hclose := closeFilter_append (hquote.mono (by simp)) hfree v
      simp only [List.cons_append, List.nil_append] at h hclose ⊢
      rw [hclose, Option.some.injEq, Prod.mk.injEq] at h
      obtain ⟨rfl, rfl⟩ := h
      exact ⟨rfl, hfree⟩

/-! ### Brackets -/

section Brackets

variable {φ : Type}

/-- An index that is read has 64 bits. -/
theorem lt_of_readIndex? {cs : List Char} {n : Nat} (h : readIndex? cs = some n) :
    n < Value.lengthBound := by
  unfold readIndex? at h
  extract_lets digits at h
  split at h
  · next hdigits =>
      rw [Option.some.injEq] at h
      rw [Bool.and_eq_true, decide_eq_true_eq, h] at hdigits
      exact hdigits.2
  · exact absurd h (by simp)

/-- A bound that is read has 64 bits. -/
theorem lt_of_readBound {cs : List Char} {bound : Option Nat} (h : readBound cs = .ok bound)
    {n : Nat} (hn : n ∈ bound) : n < Value.lengthBound := by
  unfold readBound at h
  extract_lets text at h
  split at h
  · obtain rfl := Except.ok.inj h
    simp at hn
  · split at h
    · next m hm =>
        obtain rfl := Except.ok.inj h
        obtain rfl : m = n := Option.some.inj hn
        exact lt_of_readIndex? hm
    · exact absurd h (by simp)

/-- The text of a bound is made of digits. -/
theorem isDigit_of_mem_boundText {bound : Option Nat} {c : Char} (h : c ∈ boundText bound) :
    c.isDigit = true := by
  cases bound with
  | none => simp [boundText] at h
  | some n => exact isDigit_of_mem_digitsOf h

/-- The text of a bound is not trimmed. -/
theorem trim_boundText (bound : Option Nat) : Text.trim (boundText bound) = boundText bound := by
  cases bound with
  | none => rfl
  | some n => exact Text.trim_of_forall_not fun c hc => isBlank_of_mem_digitsOf hc

/-- A bound is read back from its text. -/
theorem readBound_boundText {bound : Option Nat} (h : ∀ n ∈ bound, n < Value.lengthBound) :
    readBound (boundText bound) = .ok bound := by
  rw [readBound, trim_boundText]
  cases bound with
  | none => rfl
  | some n =>
      simp only [boundText, isEmpty_digitsOf, Bool.false_eq_true, if_false,
        readIndex?_digitsOf (h n rfl)]

/-- The texts of two bounds with a colon between them. -/
def boundsText (first last : Option Nat) : List Char := boundText first ++ ':' :: boundText last

/-- The text of bounds has digits and a colon only. -/
theorem isDigit_or_eq_of_mem_boundsText {first last : Option Nat} {c : Char}
    (h : c ∈ boundsText first last) : c.isDigit = true ∨ c = ':' := by
  rw [boundsText, List.mem_append, List.mem_cons] at h
  rcases h with h | rfl | h
  · exact .inl (isDigit_of_mem_boundText h)
  · exact .inr rfl
  · exact .inl (isDigit_of_mem_boundText h)

/-- Bounds are read back from their text. -/
theorem readPlain_boundsText {first last : Option Nat}
    (hfirst : ∀ n ∈ first, n < Value.lengthBound) (hlast : ∀ n ∈ last, n < Value.lengthBound) :
    readPlain (φ := φ) (boundsText first last) = .ok (.slice first last) := by
  have hspan : (boundsText first last).span (· != ':') =
      (boundText first, ':' :: boundText last) := by
    refine Text.span_append (fun c hc => ?_) (Text.stops_cons.mpr rfl)
    rw [bne_iff_ne]
    rintro rfl
    exact absurd (isDigit_of_mem_boundText hc) (by decide)
  have hblank : ∀ c ∈ boundsText first last, Text.isBlank c = false := by
    intro c hc
    rcases isDigit_or_eq_of_mem_boundsText hc with hdigit | rfl
    · exact (IsNumeralChar.of_isDigit hdigit).isBlank_eq_false
    · rfl
  have hstar : boundsText first last ≠ ['*'] := by
    intro heq
    have hmem : ':' ∈ ['*'] := by simp [← heq, boundsText]
    exact absurd hmem (by decide)
  rw [readPlain, Text.trim_of_forall_not hblank, if_neg hstar, hspan]
  simp only [readBound_boundText hfirst, readBound_boundText hlast]
  rfl

/-- A bracket that does not begin with a quote reaches up to where it closes. -/
theorem readBracket_of_head {body : List Char}
    (hhead : ∀ c, body.head? = some c → c ≠ '\'' ∧ c ≠ '"') :
    readBracket (φ := φ) body =
      match body.span (· != ']') with
      | (_, []) => .error .openBracket
      | (content, _ :: behind) => (readPlain content).map (·, behind) := by
  cases body with
  | nil => rfl
  | cons c body =>
      have hquote : (c == '\'' || c == '"') = false := by simpa using hhead c rfl
      exact if_neg (by rw [hquote]; decide)

/-- The content of a bracket is read, whatever follows the bracket. -/
theorem readBracket_append {content : List Char} (hclose : ']' ∉ content)
    (hhead : ∀ c, content.head? = some c → c ≠ '\'' ∧ c ≠ '"') (rest : List Char) :
    readBracket (φ := φ) (content ++ ']' :: rest) = (readPlain content).map (·, rest) := by
  have hspan : (content ++ ']' :: rest).span (· != ']') = (content, ']' :: rest) := by
    refine Text.span_append (fun c hc => ?_) (Text.stops_cons.mpr rfl)
    rw [bne_iff_ne]
    exact ne_of_mem_of_not_mem hc hclose
  rw [readBracket_of_head, hspan]
  cases content with
  | nil => simp
  | cons c content => simpa using hhead

/-- A bracket that is read and has no quotes holds no key. -/
theorem exists_of_readBracket {body rest : List Char} {s : Segment φ} (hquote : Unquoted body)
    (h : readBracket body = .ok (s, rest)) :
    ∃ content, body = content ++ ']' :: rest ∧ readPlain content = .ok s := by
  have hhead : ∀ c, body.head? = some c → c ≠ '\'' ∧ c ≠ '"' := fun c hc =>
    ⟨ne_of_mem_of_not_mem (List.mem_of_head? hc) hquote.1,
      ne_of_mem_of_not_mem (List.mem_of_head? hc) hquote.2⟩
  rw [readBracket_of_head hhead] at h
  split at h
  · exact absurd h (by simp)
  · next content c behind hspan =>
      obtain ⟨s', hs, heq⟩ := map_eq_ok_iff.mp h
      obtain ⟨rfl, rfl⟩ := Prod.mk.inj heq
      obtain ⟨rfl, -, hstop⟩ := Text.span_eq_iff.mp hspan
      obtain rfl : c = ']' := by simpa using Text.stops_cons.mp hstop
      exact ⟨content, rfl, hs⟩

end Brackets

end PathText

/-! ### Segments that are read back -/

/-- A segment is read back from its text: a key has no quote to be cut at, a number has 64 bits, a
filter ends where its source ends and is read from it, and a name is there and ends behind its last
character. -/
def Segment.IsReadable : Segment Condition → Prop
  | .key k => '\'' ∉ k.toList
  | .index i => i < Value.lengthBound
  | .wildcard => True
  | .slice first last => (∀ n ∈ first, n < Value.lengthBound) ∧ ∀ n ∈ last, n < Value.lengthBound
  | .filter c => PathText.Unquoted c.source.toList ∧ ¬[')', ']'] <:+: c.source.toList ∧
      Condition.parse c.source = .ok c
  | .descendant k => k.toList ≠ [] ∧ ∀ c ∈ k.toList, c ≠ '.' ∧ c ≠ '['

namespace PathText

/-- What is read between brackets is read back, and is no name. -/
theorem isReadable_of_readPlain {content : List Char} {s : Segment Condition}
    (h : readPlain content = .ok s) : s.IsReadable ∧ ∀ k, s ≠ .descendant k := by
  unfold readPlain at h
  extract_lets text at h
  split at h
  · obtain rfl := Except.ok.inj h
    exact ⟨trivial, by simp⟩
  · split at h
    · next first _ last _ =>
        cases hfirst : readBound first with
        | error e => simp [hfirst, bind, Except.bind] at h
        | ok a =>
            cases hlast : readBound last with
            | error e => simp [hfirst, hlast, bind, Except.bind] at h
            | ok b =>
                simp only [hfirst, hlast, bind, Except.bind] at h
                obtain rfl := Except.ok.inj h
                exact ⟨⟨fun n => lt_of_readBound hfirst, fun n => lt_of_readBound hlast⟩, by simp⟩
    · split at h
      · next n hn =>
          obtain rfl := Except.ok.inj h
          exact ⟨lt_of_readIndex? hn, by simp⟩
      · exact absurd h (by simp)

variable (wrap : PathFault → Error)

/-- A name behind two dots is a descendant. -/
theorem readSegments_descendant {name rest : List Char} (hne : name ≠ [])
    (hname : ∀ c ∈ name, c ≠ '.' ∧ c ≠ '[') (hrest : EndsName rest) (fuel : Nat) :
    readSegments wrap Condition.parse (fuel + 1) ('.' :: '.' :: (name ++ rest)) =
      (readSegments wrap Condition.parse fuel rest).map
        (.descendant (String.ofList name) :: ·) := by
  obtain ⟨c, cs, rfl⟩ := List.exists_cons_of_ne_nil hne
  rw [readSegments, spanName_append hname hrest]

/-- **A segment is read back from its text**, whatever segments follow. -/
theorem readSegments_append {s : Segment Condition} (hs : s.IsReadable) {rest : List Char}
    (hrest : EndsName rest) (fuel : Nat) :
    readSegments wrap Condition.parse (fuel + 1) (segmentText Condition.source s ++ rest) =
      (readSegments wrap Condition.parse fuel rest).map (s :: ·) := by
  cases s with
  | key k => exact readSegments_segmentText wrap _ _ (s := .key k) trivial hs hrest fuel
  | index i => exact readSegments_segmentText wrap _ _ (s := .index i) hs trivial hrest fuel
  | wildcard =>
      have hread : readBracket (φ := Condition) (['*'] ++ ']' :: rest) = .ok (.wildcard, rest) :=
        readBracket_append (by simp) (by simp) rest
      rw [segmentText, List.cons_append, readSegments_bracket wrap _ (by simp)]
      simp only [List.cons_append, List.nil_append] at hread ⊢
      rw [hread]
  | slice first last =>
      have hne : ∀ c ∈ boundsText first last, c ≠ ']' ∧ c ≠ '?' ∧ c ≠ '\'' ∧ c ≠ '"' := by
        intro c hc
        rcases isDigit_or_eq_of_mem_boundsText hc with hdigit | rfl
        · refine ⟨?_, ?_, ?_, ?_⟩ <;>
            · rintro rfl
              exact absurd hdigit (by decide)
        · decide
      have htext : segmentText Condition.source (.slice first last) ++ rest =
          '[' :: (boundsText first last ++ ']' :: rest) := by
        simp [segmentText, boundsText]
      obtain ⟨d, ds, hcons⟩ := List.exists_cons_of_ne_nil
        (show boundsText first last ≠ [] by simp [boundsText])
      have hhead : (boundsText first last ++ ']' :: rest).head? ≠ some '?' := by
        simpa [hcons] using (hne d (by simp [hcons])).2.1
      have hread := readBracket_append (φ := Condition) (fun hc => (hne _ hc).1 rfl)
        (fun c hc => (hne c (List.mem_of_head? hc)).2.2) rest
      rw [htext, readSegments_bracket wrap _ hhead, hread, readPlain_boundsText hs.1 hs.2]
      rfl
  | filter c =>
      obtain ⟨hquote, hfree, hread⟩ := hs
      have hclose := closeFilter_append hquote hfree rest
      simp only [segmentText, List.cons_append, List.nil_append, List.append_assoc] at hclose ⊢
      rw [readSegments_filter, hclose]
      simp only [String.ofList_toList, hread]
  | descendant k =>
      obtain ⟨hne, hname⟩ := hs
      rw [segmentText, List.cons_append, List.cons_append,
        readSegments_descendant wrap hne hname hrest, String.ofList_toList]

/-! ### What is read -/

/-- A part of a text is taken for a segment that is read back; of a descendant it is two dots and
the name. -/
structure IsTaken (taken : List Char) (s : Segment Condition) : Prop where
  /-- There is something taken. -/
  ne_nil : taken ≠ []
  /-- The segment is read back from its text. -/
  isReadable : s.IsReadable
  /-- A descendant ends with its name. -/
  descendant : ∀ k, s = .descendant k → taken = '.' :: '.' :: k.toList

/-- A name is the start of the text up to a dot or an opening bracket. -/
theorem exists_of_spanName {cs name rest : List Char} (h : spanName cs = (name, rest)) :
    cs = name ++ rest ∧ (∀ c ∈ name, c ≠ '.' ∧ c ≠ '[') ∧ EndsName rest := by
  obtain ⟨heq, hname, hrest⟩ := Text.span_eq_iff.mp h
  exact ⟨heq, fun c hc => by simpa using hname c hc, hrest⟩

/-- A name without quotes is taken for a key, with or without its dot. -/
theorem isTaken_key {lead name : List Char} (hne : lead ++ name ≠ []) (hquote : '\'' ∉ name) :
    IsTaken (lead ++ name) (.key (String.ofList name)) where
  ne_nil := hne
  isReadable := by simpa [Segment.IsReadable] using hquote
  descendant := by simp

/-- A name behind two dots is taken for a descendant. -/
theorem isTaken_descendant {name : List Char} (hne : name ≠ [])
    (hname : ∀ c ∈ name, c ≠ '.' ∧ c ≠ '[') :
    IsTaken ('.' :: '.' :: name) (.descendant (String.ofList name)) where
  ne_nil := by simp
  isReadable := by simpa [Segment.IsReadable] using And.intro hne hname
  descendant k heq := by rw [← Segment.descendant.inj heq, String.toList_ofList]

/-- A filter without quotes is taken up to its end. -/
theorem isTaken_filter {t : List Char} {c : Condition} (hquote : Unquoted t)
    (hfree : ¬[')', ']'] <:+: t) (hread : Condition.parse (String.ofList t) = .ok c) :
    IsTaken ('[' :: '?' :: '(' :: (t ++ [')', ']'])) (.filter c) where
  ne_nil := by simp
  isReadable := by
    have hpart : c.source.toList <:+: t := by
      rw [source_of_parse hread]
      simpa [trimmed] using Text.trim_isInfix t
    exact ⟨hquote.mono hpart.subset, fun hin => hfree (hin.trans hpart),
      Condition.parse_source hread⟩
  descendant := by simp

/-- A bracket without quotes is taken up to where it closes. -/
theorem isTaken_bracket {content : List Char} {s : Segment Condition}
    (hread : readPlain content = .ok s) : IsTaken ('[' :: (content ++ [']'])) s where
  ne_nil := by simp
  isReadable := (isReadable_of_readPlain hread).1
  descendant k heq := absurd heq ((isReadable_of_readPlain hread).2 k)

/-- **One step of reading** takes a part of a text without quotes for a segment, and goes on behind
it. -/
theorem exists_of_readSegments {fuel : Nat} {cs : List Char} {path : Path} (hcs : cs ≠ [])
    (hquote : Unquoted cs) (h : readSegments wrap Condition.parse (fuel + 1) cs = .ok path) :
    ∃ s taken behind others, path = s :: others ∧ cs = taken ++ behind ∧ IsTaken taken s ∧
      readSegments wrap Condition.parse fuel behind = .ok others := by
  unfold readSegments at h
  split at h
  case h_1 => exact absurd rfl hcs
  case h_2 heq _ => exact absurd heq (Nat.succ_ne_zero fuel)
  case h_3 heq =>
    obtain rfl := Nat.succ.inj heq
    split at h
    · exact absurd h (by simp)
    · next name behind hne hspan =>
        obtain ⟨others, hothers, rfl⟩ := map_eq_ok_iff.mp h
        obtain ⟨rfl, hname, -⟩ := exists_of_spanName hspan
        have hdescendant := isTaken_descendant hne hname
        exact ⟨_, '.' :: '.' :: name, behind, others, rfl, rfl, hdescendant, hothers⟩
  case h_4 heq =>
    obtain rfl := Nat.succ.inj heq
    split at h
    · exact absurd h (by simp)
    · next name behind hne hspan =>
        obtain ⟨others, hothers, rfl⟩ := map_eq_ok_iff.mp h
        obtain ⟨rfl, hname, -⟩ := exists_of_spanName hspan
        have hkey := @isTaken_key ['.'] name (by simp) (hquote.mono (by simp)).1
        exact ⟨_, _, behind, others, rfl, rfl, hkey, hothers⟩
  case h_5 heq =>
    obtain rfl := Nat.succ.inj heq
    split at h
    · exact absurd h (by simp)
    · next t behind hclose =>
        split at h
        · exact absurd h (by simp)
        · next c hc =>
            obtain ⟨others, hothers, rfl⟩ := map_eq_ok_iff.mp h
            obtain ⟨rfl, hfree⟩ :=
              exists_of_closeFilter (hquote.mono fun d hd => by simp [hd]) hclose
            have hfilter := isTaken_filter (hquote.mono fun d hd => by simp [hd]) hfree hc
            exact ⟨_, _, behind, others, rfl, by simp, hfilter, hothers⟩
  case h_6 heq =>
    obtain rfl := Nat.succ.inj heq
    split at h
    · exact absurd h (by simp)
    · next s behind hread =>
        obtain ⟨others, hothers, rfl⟩ := map_eq_ok_iff.mp h
        obtain ⟨content, rfl, hplain⟩ :=
          exists_of_readBracket (hquote.mono (List.subset_cons_self ..)) hread
        exact ⟨s, _, behind, others, rfl, by simp, isTaken_bracket hplain, hothers⟩
  case h_7 heq _ _ hdot _ hbracket =>
    obtain rfl := Nat.succ.inj heq
    split at h
    next name behind hspan =>
      obtain ⟨others, hothers, rfl⟩ := map_eq_ok_iff.mp h
      obtain ⟨rfl, hname, hbehind⟩ := exists_of_spanName hspan
      -- What begins neither with a dot nor with a bracket begins with a name.
      have hne : name ≠ [] := by
        rintro rfl
        cases behind with
        | nil => exact hcs rfl
        | cons c behind =>
            have hc := Text.stops_cons.mp hbehind
            rw [Bool.not_eq_false', Bool.or_eq_true, beq_iff_eq, beq_iff_eq] at hc
            rcases hc with rfl | rfl
            · exact hdot behind rfl
            · exact hbracket behind rfl
      have hkey := @isTaken_key [] name hne (hquote.mono (by simp)).1
      exact ⟨_, name, behind, others, rfl, rfl, hkey, hothers⟩

/-- Only from an empty text no segment is read. -/
theorem eq_nil_of_readSegments {fuel : Nat} {cs : List Char} (hfuel : cs.length ≤ fuel)
    (hquote : Unquoted cs) (h : readSegments wrap Condition.parse fuel cs = .ok []) : cs = [] := by
  by_contra hcs
  have hpos := List.length_pos_iff.mpr hcs
  obtain ⟨fuel, rfl⟩ : ∃ f, fuel = f + 1 := ⟨fuel - 1, by omega⟩
  obtain ⟨s, _, _, others, heq, -⟩ := exists_of_readSegments wrap hcs hquote h
  exact List.cons_ne_nil s others heq.symm

/-- The last name of a path does not end in a blank. -/
def EndsInSolidName (path : Path) : Prop :=
  ∀ k, path.getLast? = some (.descendant k) → Text.EndsSolid k.toList

/-- **What is read from a text without quotes and without a blank at its end is read back**: every
segment is, and the last name does not end in a blank either. -/
theorem isReadable_of_readSegments {fuel : Nat} {cs : List Char} {path : Path}
    (hfuel : cs.length ≤ fuel) (hquote : Unquoted cs) (hsolid : Text.EndsSolid cs)
    (h : readSegments wrap Condition.parse fuel cs = .ok path) :
    (∀ s ∈ path, s.IsReadable) ∧ EndsInSolidName path := by
  induction fuel generalizing cs path with
  | zero =>
      obtain rfl := List.eq_nil_of_length_eq_zero (Nat.le_zero.mp hfuel)
      obtain rfl : [] = path := by simpa [readSegments] using h
      exact ⟨by simp, by simp [EndsInSolidName]⟩
  | succ fuel ih =>
      rcases eq_or_ne cs [] with rfl | hcs
      · obtain rfl : [] = path := by simpa [readSegments] using h
        exact ⟨by simp, by simp [EndsInSolidName]⟩
      obtain ⟨s, taken, behind, others, rfl, rfl, htaken, hothers⟩ :=
        exists_of_readSegments wrap hcs hquote h
      have hpos := List.length_pos_iff.mpr htaken.ne_nil
      have hlength : behind.length ≤ fuel := by
        rw [List.length_append] at hfuel
        omega
      have hquote' : Unquoted behind := hquote.mono (by simp)
      have hsolid' : Text.EndsSolid behind := hsolid.of_suffix (List.suffix_append ..)
      obtain ⟨hreadable, hlast⟩ := ih hlength hquote' hsolid' hothers
      refine ⟨List.forall_mem_cons.mpr ⟨htaken.isReadable, hreadable⟩, fun k hk => ?_⟩
      cases others with
      | nil =>
          obtain rfl := eq_nil_of_readSegments wrap hlength hquote' hothers
          rw [List.append_nil, htaken.descendant k (by simpa using hk)] at hsolid
          exact hsolid.of_suffix ⟨['.', '.'], rfl⟩
      | cons t others => exact hlast k (by rwa [List.getLast?_cons_cons] at hk)

/-! ### The text of a path -/

/-- A segment begins with a dot or a bracket. -/
theorem exists_segmentText_cons (s : Segment Condition) :
    ∃ cs, segmentText Condition.source s = '.' :: cs ∨
      segmentText Condition.source s = '[' :: cs := by
  cases s with
  | key k => exact (exists_segmentText Condition.source (s := .key k) trivial).1
  | descendant k => exact ⟨_, .inl rfl⟩
  | index _ | wildcard | slice _ _ | filter _ => exact ⟨_, .inr rfl⟩

/-- A name ends where segments begin. -/
theorem endsName_segmentsText (path : Path) :
    EndsName (path.flatMap (segmentText Condition.source)) := by
  cases path with
  | nil => exact Text.stops_nil _
  | cons s path =>
      obtain ⟨cs, heq | heq⟩ := exists_segmentText_cons s <;>
        rw [List.flatMap_cons, heq, List.cons_append] <;> exact Text.stops_cons.mpr rfl

/-- A segment that is read back ends in no blank, unless it is a name that does. -/
theorem endsSolid_segmentText {s : Segment Condition} (hs : s.IsReadable)
    (h : ∀ k, s = .descendant k → Text.EndsSolid k.toList) :
    Text.EndsSolid (segmentText Condition.source s) := by
  have hconcat : (∃ start c, segmentText Condition.source s = start ++ [c] ∧
      Text.isBlank c = false) → Text.EndsSolid (segmentText Condition.source s) := by
    rintro ⟨start, c, heq, hc⟩
    rw [heq]
    exact Text.endsSolid_concat.mpr hc
  cases s with
  | key k => exact hconcat (exists_segmentText Condition.source (s := .key k) trivial).2
  | index i => exact hconcat (exists_segmentText Condition.source (s := .index i) hs).2
  | wildcard => exact hconcat ⟨['[', '*'], ']', rfl, rfl⟩
  | slice first last =>
      exact hconcat ⟨'[' :: boundsText first last, ']', by simp [segmentText, boundsText], rfl⟩
  | filter c =>
      exact hconcat
        ⟨'[' :: '?' :: '(' :: (c.source.toList ++ [')']), ']', by simp [segmentText], rfl⟩
  | descendant k => exact (@Text.endsSolid_append ['.', '.'] _ hs.1).mpr (h k rfl)

/-- The text of a path is not trimmed. -/
theorem trim_segmentsText {path : Path} (h : ∀ s ∈ path, s.IsReadable)
    (hlast : EndsInSolidName path) :
    Text.trim ('$' :: path.flatMap (segmentText Condition.source)) =
      '$' :: path.flatMap (segmentText Condition.source) := by
  refine Text.trim_cons_of_endsSolid (by decide) ?_
  rcases List.eq_nil_or_concat path with rfl | ⟨before, s, rfl⟩
  · exact (@Text.endsSolid_concat [] '$').mpr (by decide)
  · rw [List.concat_eq_append] at h hlast ⊢
    obtain ⟨cs, hcs⟩ := exists_segmentText_cons s
    have hne : segmentText Condition.source s ≠ [] := by rcases hcs with heq | heq <;> simp [heq]
    have hsolid : Text.EndsSolid (segmentText Condition.source s) :=
      endsSolid_segmentText (h s (by simp)) fun k hk => hlast k (by simp [hk])
    rw [List.flatMap_append, List.flatMap_singleton, ← List.cons_append]
    exact (Text.endsSolid_append hne).mpr hsolid

/-- Segments are read back from their texts one behind the other. -/
theorem readSegments_flatMap {path : Path} (h : ∀ s ∈ path, s.IsReadable) {fuel : Nat}
    (hfuel : (path.flatMap (segmentText Condition.source)).length ≤ fuel) :
    readSegments wrap Condition.parse fuel (path.flatMap (segmentText Condition.source)) =
      .ok path := by
  induction path generalizing fuel with
  | nil => simp [readSegments]
  | cons s path ih =>
      rw [List.forall_mem_cons] at h
      have hpos : 0 < (segmentText Condition.source s).length := by
        obtain ⟨cs, heq | heq⟩ := exists_segmentText_cons s <;> simp [heq]
      rw [List.flatMap_cons, List.length_append] at hfuel
      obtain ⟨fuel, rfl⟩ : ∃ f, fuel = f + 1 := ⟨fuel - 1, by omega⟩
      rw [List.flatMap_cons, readSegments_append wrap h.1 (endsName_segmentsText path),
        ih h.2 (by omega)]
      rfl

/-- The text of a path is read back behind the sign of the root: the dot of a first key goes with
the sign, and the key is read without it. -/
theorem readSegments_withoutRoot {path : Path} (h : ∀ s ∈ path, s.IsReadable) {cs : List Char}
    (hcs : withoutRoot ('$' :: path.flatMap (segmentText Condition.source)) = cs) :
    readSegments wrap Condition.parse cs.length cs = .ok path := by
  subst hcs
  by_cases hplain : ∃ k others, path = .key k :: others ∧ isPlainKey k = true
  · obtain ⟨k, others, rfl, hk⟩ := hplain
    obtain ⟨c, name, hlist, hchars⟩ := exists_of_isPlainKey hk
    have hname : ∀ d ∈ c :: name, d ≠ '.' ∧ d ≠ '[' := fun d hd =>
      ⟨(hchars d hd).1, (hchars d hd).2.1⟩
    rw [List.forall_mem_cons] at h
    rw [withoutRoot_plainKey _ hk, hlist, List.cons_append, List.length_cons, ← List.cons_append,
      readSegments_name wrap _ hname (endsName_segmentsText others), ← hlist,
      String.ofList_toList, readSegments_flatMap wrap h.2 (by simp)]
    rfl
  · rw [withoutRoot_flatMap _ hplain]
    exact readSegments_flatMap wrap h (Nat.le_refl _)

/-- **A path is read back from its text** if its segments are and its last name does not end in a
blank. -/
theorem parseSegments_segmentsText {path : Path} (h : ∀ s ∈ path, s.IsReadable)
    (hlast : EndsInSolidName path) :
    parseSegments wrap Condition.parse (segmentsText Condition.source path) = .ok path := by
  rw [parseSegments, segmentsText, String.toList_ofList, trim_segmentsText h hlast]
  exact readSegments_withoutRoot wrap h rfl

/-- Without the sign of the root there is the end of the text left. -/
theorem withoutRoot_isSuffix (cs : List Char) : withoutRoot cs <:+ cs := by
  unfold withoutRoot
  extract_lets rest
  have hrest : rest <:+ cs := by
    unfold rest
    split
    · exact List.suffix_cons ..
    · exact List.suffix_refl _
  clear_value rest
  split
  · exact hrest
  · exact (List.suffix_cons ..).trans hrest
  · exact hrest

end PathText

open PathText in
/-- **Printing normalizes paths**: what is read from a text without quotes is read back from its
own text. -/
theorem parse_text_of_parse {t : String} {path : Path} (hsingle : '\'' ∉ t.toList)
    (hdouble : '"' ∉ t.toList) (h : Path.parse t = .ok path) :
    Path.parse path.text = .ok path := by
  have hsuffix := withoutRoot_isSuffix (Text.trim t.toList)
  have hquote : Unquoted (withoutRoot (Text.trim t.toList)) :=
    Unquoted.mono ⟨hsingle, hdouble⟩
      (List.Subset.trans hsuffix.subset (Text.trim_isInfix t.toList).subset)
  have hsolid : Text.EndsSolid (withoutRoot (Text.trim t.toList)) :=
    (Text.endsSolid_trim t.toList).of_suffix hsuffix
  obtain ⟨hreadable, hlast⟩ := isReadable_of_readSegments _ (Nat.le_refl _) hquote hsolid h
  exact parseSegments_segmentsText _ hreadable hlast

/-- A text in which nearly everything is spelled otherwise than it is printed. -/
def sprawlingText : String := "  a b.c]..d e [ +007 ][ * ][ 1 : ][?( @.x > 1 && @[0] )]..$ f\n"

/-- The path of that text, of which the filter is left open. -/
def sprawlingPath (c : Condition) : Path :=
  [.key "a b", .key "c]", .descendant "d e ", .index 7, .wildcard, .slice (some 1) none, .filter c,
    .descendant "$ f"]

/-- Names with blanks and a bracket, padded numbers and a padded filter are printed in one way, and
read back. -/
theorem parse_text_of_parse_sprawlingText :
    '\'' ∉ sprawlingText.toList ∧ '"' ∉ sprawlingText.toList ∧
      ∃ c : Condition, Path.parse sprawlingText = .ok (sprawlingPath c) ∧
        (sprawlingPath c).text = "$['a b']['c]']..d e [7][*][1:][?(@.x > 1 && @[0])]..$ f" ∧
        Path.parse (sprawlingPath c).text = .ok (sprawlingPath c) := by
  have hsingle : '\'' ∉ sprawlingText.toList := by decide
  have hdouble : '"' ∉ sprawlingText.toList := by decide
  obtain ⟨c, hread, htext⟩ : ∃ c, Path.parse sprawlingText = .ok (sprawlingPath c) ∧
      (sprawlingPath c).text = "$['a b']['c]']..d e [7][*][1:][?(@.x > 1 && @[0])]..$ f" :=
    ⟨_, by rfl, by rfl⟩
  exact ⟨hsingle, hdouble, c, hread, htext, parse_text_of_parse hsingle hdouble hread⟩

end JsonWorkbench
