import JsonWorkbench.Proofs.Value
import JsonWorkbench.Proofs.Yaml.Key

/-!
# The Tokens of a Written Value

A written value is read as the tokens that its structure has: a collection by indentation begins
with its first entry and ends where a line begins further to the left, and the items of a sequence
that is the value of a key stand in the column of the key, with no tokens for a begin and an end of
their own.

The proof follows the value. What it says of a node holds for whatever stands behind it: for all
entries but the last that is the next entry, and for the last one what stands behind the
collection. So only the last scalar of a value is touched by what the end of the text has lost.

## Main definitions

* `withoutLastFeeds` — a value whose last text has lost the line feeds of its block.
* `nodeTokens` — the tokens of a value.
* `Reads` — the tokens of a value are found where it may stand.

## Main results

* `settles_sequence`, `settles_mapping`, `settles_leaf` — the tokens of a value with what stands
  behind it.
* `reads_of_isIntegral` — all values without doubles are read.
-/

namespace JsonWorkbench.Yaml

/-! ### The last text -/

mutual

/-- The value whose last scalar, if it is a text that is written as a block, has no line feeds at
its end. -/
def withoutLastFeeds : Value → Value
  | .string s => .string (String.ofList (textBehind s.toList .finish))
  | .array vs => .array (itemsWithoutLastFeeds vs)
  | .object ms => .object (membersWithoutLastFeeds ms)
  | v => v

/-- The items of which only the last one is touched. -/
def itemsWithoutLastFeeds : List Value → List Value
  | [] => []
  | [v] => [withoutLastFeeds v]
  | v :: w :: vs => v :: itemsWithoutLastFeeds (w :: vs)

/-- The members of which only the last value is touched. -/
def membersWithoutLastFeeds : List (String × Value) → List (String × Value)
  | [] => []
  | [(k, v)] => [(k, withoutLastFeeds v)]
  | m :: n :: ms => m :: membersWithoutLastFeeds (n :: ms)

end

/-- The value that is read where something stands behind it. -/
def valueBehind (v : Value) : Behind → Value
  | .line _ _ _ => v
  | .finish => withoutLastFeeds v

/-- The items that are read where something stands behind them. -/
def itemsBehind (vs : List Value) : Behind → List Value
  | .line _ _ _ => vs
  | .finish => itemsWithoutLastFeeds vs

/-- The members that are read where something stands behind them. -/
def membersBehind (ms : List (String × Value)) : Behind → List (String × Value)
  | .line _ _ _ => ms
  | .finish => membersWithoutLastFeeds ms

/-! ### Tokens -/

/-- The text of a value that is a scalar. -/
def leafText : Value → List Char
  | .null => ['n', 'u', 'l', 'l']
  | .bool true => ['t', 'r', 'u', 'e']
  | .bool false => ['f', 'a', 'l', 's', 'e']
  | .number (.integer n) => (toString n).toList
  | .number (.double x) => (Decimal.Layout.yaml.render x).toList
  | .string s => s.toList
  | .array _ | .object _ => []

/-- Whether a scalar is written as a word that is something else than a text. -/
def isWord : Value → Bool
  | .string _ => false
  | v => !readsAsText (leafText v)

/-- The tokens of a value that takes no lines of its own. -/
def leafTokens : Value → List TokenKind
  | .array _ => [.flowSequenceStart, .flowSequenceEnd]
  | .object _ => [.flowMappingStart, .flowMappingEnd]
  | v => [.scalar (leafText v) (isWord v)]

mutual

/-- The tokens of a value. -/
def nodeTokens : Value → List TokenKind
  | .array (v :: vs) => .blockSequenceStart :: (itemTokens (v :: vs) ++ [.blockEnd])
  | .object (m :: ms) => .blockMappingStart :: (pairTokens (m :: ms) ++ [.blockEnd])
  | v => leafTokens v

/-- The tokens of a value behind a key that stands before a colon on its line. -/
def belowTokens : Value → List TokenKind
  | .array (v :: vs) => itemTokens (v :: vs)
  | .object (m :: ms) => .blockMappingStart :: (pairTokens (m :: ms) ++ [.blockEnd])
  | v => leafTokens v

/-- The tokens of items. -/
def itemTokens : List Value → List TokenKind
  | [] => []
  | v :: vs => .blockEntry :: (nodeTokens v ++ itemTokens vs)

/-- The tokens of members. -/
def pairTokens : List (String × Value) → List TokenKind
  | [] => []
  | (k, v) :: ms =>
    .key :: .scalar k.toList false :: .value ::
      ((if isSimpleKey k.toList then belowTokens v else nodeTokens v) ++ pairTokens ms)

end

/-! ### Values on one line -/

/-- A word of letters and digits, perhaps with a sign, to the right of its collection. -/
theorem settles_alphanum (sign : List Char) {word : List Char} (hne : word ≠ [])
    (hword : ∀ c ∈ word, c.isAlphanum = true) (hsign : sign = [] ∨ sign = ['-'])
    (found : List Token) {columns : List Nat} (keyAllowed : Bool) {m : Mark}
    (hcolumn : ∀ n, columns.head? = some n → n < m.column) {behind : Behind}
    (hbehind : behind.Follows (marginOf columns)) :
    Settles (.of found columns keyAllowed none { rest := follow (sign ++ word) behind, mark := m })
      columns (kindsOf found ++ [.scalar (sign ++ word) (!readsAsText (sign ++ word))]) behind := by
  refine settles_word (isPlain_of_alphanum hne hword hsign) (fun c hc => ?_) found keyAllowed
    hcolumn hbehind
  rcases List.mem_append.mp hc with hc | hc
  · rcases hsign with rfl | rfl
    · simp at hc
    · rw [List.mem_singleton.mp hc]
      rfl
  · exact (writable_of_alphanum (hword c hc)).2

/-- The digits of a number are letters and digits. -/
theorem isAlphanum_of_mem_digitsOf {n : Nat} {c : Char} (h : c ∈ digitsOf n) :
    c.isAlphanum = true := by
  rw [Char.isAlphanum, isDigit_of_mem_digitsOf h, Bool.or_true]

/-- Only a text is touched by what stands behind it. -/
theorem leafTokens_valueBehind {v : Value} (hv : ∀ s, v ≠ .string s) (behind : Behind) :
    leafTokens (valueBehind v behind) = leafTokens v := by
  cases behind with
  | line column first rest => rfl
  | finish =>
      cases v
      case string s => exact absurd rfl (hv s)
      all_goals rfl

/-- A text has the token of what is read for it. -/
theorem leafTokens_valueBehind_string (s : String) (behind : Behind) :
    leafTokens (valueBehind (.string s) behind) = [.scalar (textBehind s.toList behind) false] := by
  cases behind <;>
    simp [valueBehind, withoutLastFeeds, leafTokens, leafText, isWord, textBehind]

/-- **A value that takes no lines of its own**, to the right of its collection. -/
theorem settles_leaf {v : Value} (hv : v.IsIntegral) (found : List Token) {columns : List Nat}
    (keyAllowed : Bool) {m : Mark} (hcolumn : ∀ n, columns.head? = some n → n < m.column)
    {behind : Behind} (hbehind : behind.Follows (marginOf columns)) :
    Settles (.of found columns keyAllowed none
        { rest := follow (writeScalar (marginOf columns - 1 + 2) v) behind, mark := m }) columns
      (kindsOf found ++ leafTokens (valueBehind v behind)) behind := by
  cases v with
  | null =>
      rw [leafTokens_valueBehind (by simp)]
      exact settles_alphanum [] (by simp) (List.all_eq_true.mp (by decide)) (.inl rfl) found
        keyAllowed hcolumn hbehind
  | bool b =>
      rw [leafTokens_valueBehind (by simp)]
      cases b <;>
        exact settles_alphanum [] (by simp) (List.all_eq_true.mp (by decide)) (.inl rfl) found
          keyAllowed hcolumn hbehind
  | number n =>
      cases n with
      | double x => exact absurd hv (by simp [Value.IsIntegral])
      | integer n =>
          have htokens : leafTokens (.number (.integer n)) =
              [.scalar (toString n).toList (!readsAsText (toString n).toList)] := rfl
          rw [leafTokens_valueBehind (by simp), htokens, writeScalar, toList_toString_int]
          refine settles_alphanum _ (digitsOf_ne_nil _) (fun c => isAlphanum_of_mem_digitsOf) ?_
            found keyAllowed hcolumn hbehind
          split
          · exact .inr rfl
          · exact .inl rfl
  | string s =>
      rw [leafTokens_valueBehind_string]
      exact settles_text s.toList found keyAllowed hcolumn hbehind
  | array vs =>
      rw [leafTokens_valueBehind (by simp)]
      exact settles_empty .sequence found keyAllowed hcolumn hbehind.begins
  | object ms =>
      rw [leafTokens_valueBehind (by simp)]
      exact settles_empty .mapping found keyAllowed hcolumn hbehind.begins

/-! ### What is written first -/

/-- A value at a column, the first of its lines without the indentation. -/
def nodeText (column : Nat) : Value → List Char
  | .array (v :: vs) => stack column (writeItems column (v :: vs))
  | .object (m :: ms) => stack column (writePairs column (m :: ms))
  | v => writeScalar column v

/-- Behind a mark a value stands two columns further to the right. -/
theorem writeInline_eq (column : Nat) (v : Value) :
    writeInline column v = ' ' :: nodeText (column + 2) v := by
  rcases v with - | _ | _ | _ | ⟨- | _⟩ | ⟨- | _⟩ <;> rfl

/-- The entries of a collection stand on lines of their own. -/
theorem stack_cons_cons (column : Nat) (entry next : List Char) (entries : List (List Char)) :
    stack column (entry :: next :: entries) =
      endedLine entry ++ pad column ++ stack column (next :: entries) := rfl

/-- A collection begins with its first entry. -/
theorem exists_stack (column : Nat) {entry rest : List Char} {c : Char} (h : entry = c :: rest)
    (entries : List (List Char)) : ∃ more, stack column (entry :: entries) = c :: more := by
  subst h
  rcases entries with - | ⟨e, entries⟩
  · exact ⟨rest, rfl⟩
  · rcases endedLine_eq (c :: rest) with ⟨-, -, -, -, heq⟩ | heq
    · exact ⟨_, by rw [stack_cons_cons, heq, List.append_assoc, List.cons_append]⟩
    · exact ⟨_, by
        rw [stack_cons_cons, heq, List.append_assoc, List.cons_append, List.cons_append]⟩

/-- The first character of a pair. -/
theorem exists_writePairs (column : Nat) (k : String) (v : Value) (ms : List (String × Value)) :
    ∃ c pair pairs, writePairs column ((k, v) :: ms) = (c :: pair) :: pairs ∧ StartsToken c := by
  rw [writePairs]
  split
  · obtain ⟨c, rest, htext, hc⟩ := exists_writeText (column + 2) k.toList
    rw [htext]
    exact ⟨c, _, _, rfl, hc⟩
  · have hended : endedLine ('?' :: ' ' :: writeText (column + 2) k.toList) =
        '?' :: endedLine (' ' :: writeText (column + 2) k.toList) := by
      exact endedLine_append ['?'] (by simp)
    rw [hended]
    exact ⟨'?', _, _, rfl, rfl, by decide, by decide⟩

/-- A letter or digit begins a token. -/
theorem startsToken_of_alphanum {c : Char} (h : c.isAlphanum = true) : StartsToken c := by
  have hne : ∀ d : Char, d.isAlphanum = false → c ≠ d := by
    rintro d hd rfl
    rw [h] at hd
    exact absurd hd (by decide)
  obtain ⟨hwritable, hbreak⟩ := writable_of_alphanum h
  exact ⟨isGapOrBreak_eq_false hwritable hbreak (hne ' ' (by decide)), hne '#' (by decide),
    hne '\uFEFF' (by decide)⟩

/-- A value that takes no lines of its own begins with a token. -/
theorem exists_writeScalar {v : Value} (hv : v.IsIntegral) (column : Nat) :
    ∃ c rest, writeScalar column v = c :: rest ∧ StartsToken c := by
  cases v with
  | null => exact ⟨'n', _, rfl, rfl, by decide, by decide⟩
  | bool b => cases b <;> exact ⟨_, _, rfl, rfl, by decide, by decide⟩
  | number n =>
      cases n with
      | double x => exact absurd hv (by simp [Value.IsIntegral])
      | integer n =>
          obtain ⟨d, ds, hdigits, hdigit, -⟩ := exists_digitsOf n.natAbs
          have hd : d.isAlphanum = true := by rw [Char.isAlphanum, hdigit, Bool.or_true]
          rw [writeScalar, toList_toString_int, hdigits]
          split
          · exact ⟨'-', _, rfl, rfl, by decide, by decide⟩
          · exact ⟨d, ds, rfl, startsToken_of_alphanum hd⟩
  | string s => exact exists_writeText column s.toList
  | array vs => exact ⟨'[', _, rfl, rfl, by decide, by decide⟩
  | object ms => exact ⟨'\x7b', _, rfl, rfl, by decide, by decide⟩

/-- **A value begins with a token.** -/
theorem exists_nodeText {v : Value} (hv : v.IsIntegral) (column : Nat) :
    ∃ c rest, nodeText column v = c :: rest ∧ StartsToken c := by
  rcases v with - | b | n | s | ⟨- | ⟨v, vs⟩⟩ | ⟨- | ⟨⟨k, v⟩, ms⟩⟩
  case array.cons =>
    obtain ⟨more, hmore⟩ := exists_stack column (rfl : '-' :: writeInline column v = _)
      (writeItems column vs)
    exact ⟨'-', more, hmore, rfl, by decide, by decide⟩
  case object.cons =>
    obtain ⟨c, pair, pairs, hpairs, hc⟩ := exists_writePairs column k v ms
    obtain ⟨more, hmore⟩ := exists_stack column (rfl : c :: pair = _) pairs
    exact ⟨c, more, by rw [nodeText, hpairs, hmore], hc⟩
  all_goals exact exists_writeScalar hv column

/-- What stands behind a text does not touch its first character. -/
theorem exists_follow {text : List Char} (h : ∃ c rest, text = c :: rest ∧ StartsToken c)
    (behind : Behind) : ∃ c rest, follow text behind = c :: rest ∧ StartsToken c := by
  obtain ⟨c, rest, rfl, hc⟩ := h
  have hfeed : c ≠ '\n' := by
    rintro rfl
    exact absurd hc.1 (by decide)
  obtain ⟨more, hmore⟩ := follow_cons hfeed rest behind
  exact ⟨c, more, hmore, hc⟩

/-! ### Entries below one another -/

variable {found : List Token} {columns columns' : List Nat} {kinds : List TokenKind} {m : Mark}
  {behind : Behind}

/-- **An entry and those below it**: behind the first one stands the next one, in the same
column. -/
theorem settles_stack (kinds : List TokenKind) {column : Nat} {entry next : List Char}
    {entries : List (List Char)} {kinds' : List TokenKind} (hcolumn : columns'.head? = some column)
    (hnext : ∃ d rest, stack column (next :: entries) = d :: rest ∧ StartsToken d)
    (hfirst : ∀ d rest, StartsToken d →
      Settles (.of found columns true none
        { rest := follow entry (.line column d rest), mark := m }) columns' kinds
          (.line column d rest))
    (hrest : ∀ (found : List Token) (m : Mark), m.column = column → kindsOf found = kinds →
      Settles (.of found columns' true none
        { rest := follow (stack column (next :: entries)) behind, mark := m }) columns' kinds'
          behind) :
    Settles (.of found columns true none
        { rest := follow (stack column (entry :: next :: entries)) behind, mark := m }) columns'
      kinds' behind := by
  obtain ⟨d, rest, htext, hd⟩ := hnext
  have hfeed : d ≠ '\n' := by
    rintro rfl
    exact absurd hd.1 (by decide)
  obtain ⟨more, hmore⟩ := follow_cons hfeed rest behind
  have hfollow : follow (stack column (entry :: next :: entries)) behind =
      follow entry (.line column d more) := by
    rw [stack_cons_cons, htext, follow_append _ hfeed, hmore, follow, List.append_assoc]
  obtain ⟨found', m', hreaches, hm', hkinds⟩ := hfirst d more hd
  obtain ⟨hnone, hall⟩ := takeWhile_of_head? hcolumn (Nat.le_refl column)
  rw [hall] at hreaches
  rw [hnone, List.length_nil, List.replicate_zero, List.append_nil] at hkinds
  have hlast := hrest found' m' hm' hkinds
  rw [htext, hmore] at hlast
  rw [hfollow]
  exact hlast.of_reaches hreaches

/-! ### Sequences -/

/-- A value is read behind a mark, two columns to the right of its collection. -/
def ReadsInline (v : Value) : Prop :=
  ∀ (found : List Token) (columns : List Nat) (column : Nat) (m : Mark) (behind : Behind),
    columns.head? = some column → m.column = column + 2 → behind.Follows (column + 1) →
    Settles (.of found columns true none
        { rest := follow (nodeText (column + 2) v) behind, mark := m }) columns
      (kindsOf found ++ nodeTokens (valueBehind v behind)) behind

/-- The collection with a first column has the margin behind it. -/
theorem marginOf_of_head? {columns : List Nat} {column : Nat} (h : columns.head? = some column) :
    marginOf columns = column + 1 := by
  rcases columns with - | ⟨n, columns⟩
  · simp at h
  · rw [marginOf, Option.some.inj h]

/-- The content behind a mark and a blank keeps what stands behind it. -/
theorem follow_mark {c : Char} (hc : c ≠ '\n') {text : List Char}
    (htext : ∃ d rest, text = d :: rest ∧ StartsToken d) (behind : Behind) :
    follow (c :: ' ' :: text) behind = c :: ' ' :: follow text behind := by
  obtain ⟨d, rest, rfl, -⟩ := htext
  rw [follow_cons_of_ne_nil hc (by simp), follow_cons_of_ne_nil (by decide) (by simp)]

/-- **The content behind the mark of an entry.** -/
theorem settles_entry (found : List Token) {c : Char} {start kind : TokenKind}
    (hc : IsEntryMark c start kind)
    (hopens : Opens start m.column columns columns' kinds) {v : Value} (hv : v.IsIntegral)
    (hreads : ReadsInline v) (hbehind : behind.Follows (m.column + 1)) :
    Settles (.of found columns true none
        { rest := c :: ' ' :: follow (nodeText (m.column + 2) v) behind, mark := m }) columns'
      (kindsOf found ++ kinds ++ [kind] ++ nodeTokens (valueBehind v behind)) behind := by
  obtain ⟨d, rest, htext, hd⟩ := exists_follow (exists_nodeText hv (m.column + 2)) behind
  have hbegins : BeginsToken (follow (nodeText (m.column + 2) v) behind) := by
    rw [htext]
    exact beginsToken_cons hd rest
  obtain ⟨found', m', hreaches, hcolumn, hkinds⟩ :=
    reaches_entryMark found columns hc hopens hbegins
  rw [← hkinds]
  exact (hreads found' columns' m.column m' behind hopens.head? hcolumn hbehind).of_reaches hreaches

/-- One item is read last. -/
theorem itemsBehind_singleton (v : Value) (behind : Behind) :
    itemsBehind [v] behind = [valueBehind v behind] := by
  cases behind <;> rfl

/-- All items but the last are read as they are. -/
theorem itemsBehind_cons_cons (v w : Value) (vs : List Value) (behind : Behind) :
    itemsBehind (v :: w :: vs) behind = v :: itemsBehind (w :: vs) behind := by
  cases behind <;> rfl

/-- **The items of a sequence.** -/
theorem settles_items (found : List Token) {vs : List Value} (hne : vs ≠ [])
    (hvs : ∀ v ∈ vs, v.IsIntegral ∧ ReadsInline v)
    (hopens : Opens .blockSequenceStart m.column columns columns' kinds)
    (hbehind : behind.Follows (m.column + 1)) :
    Settles (.of found columns true none
        { rest := follow (stack m.column (writeItems m.column vs)) behind, mark := m }) columns'
      (kindsOf found ++ kinds ++ itemTokens (itemsBehind vs behind)) behind := by
  induction vs generalizing found columns columns' kinds m behind with
  | nil => exact absurd rfl hne
  | cons v vs ih =>
      rw [List.forall_mem_cons] at hvs
      obtain ⟨⟨hv, hreads⟩, hvs⟩ := hvs
      rcases vs with - | ⟨w, vs⟩
      · have hentry := settles_entry found .item hopens hv hreads hbehind
        have htext : stack m.column (writeItems m.column [v]) =
            '-' :: ' ' :: nodeText (m.column + 2) v := by
          rw [writeItems, writeItems, stack, writeInline_eq]
        rw [htext, follow_mark (by decide) (exists_nodeText hv _), itemsBehind_singleton,
          itemTokens, itemTokens, List.append_nil]
        simpa using hentry
      · rw [itemsBehind_cons_cons, itemTokens]
        refine settles_stack (kindsOf found ++ kinds ++ [.blockEntry] ++ nodeTokens v) hopens.head?
          ⟨'-', ?_⟩ (fun d rest hd => ?_) (fun found' m' hm' hkinds' => ?_)
        · obtain ⟨more, hmore⟩ := exists_stack m.column (rfl : '-' :: writeInline m.column w = _)
            (writeItems m.column vs)
          exact ⟨more, hmore, rfl, by decide, by decide⟩
        · have hline : Behind.Follows (m.column + 1) (.line m.column d rest) :=
            ⟨⟨Nat.lt_succ_self _, hd.1⟩, beginsToken_cons hd rest⟩
          have hentry := settles_entry found .item hopens hv hreads hline
          rw [writeInline_eq, follow_mark (by decide) (exists_nodeText hv _)]
          exact hentry
        · have hinside : Opens .blockSequenceStart m'.column columns' columns' [] :=
            .inside (by rw [hm', hopens.head?])
          have hrest := @ih columns' columns' [] m' behind found' (by simp) hvs hinside
            (by rw [hm']; exact hbehind)
          rw [hm', hkinds', writeItems] at hrest
          simpa using hrest

/-! ### Mappings -/

/-- Whether a value has lines of its own. -/
def takesLines : Value → Bool
  | .array (_ :: _) | .object (_ :: _) => true
  | _ => false

/-- The column of a value that stands below its key. -/
def belowColumn (column : Nat) : Value → Nat
  | .array (_ :: _) => column
  | _ => column + 2

/-- A value stands no further to the left than its key. -/
theorem le_belowColumn (column : Nat) (v : Value) : column ≤ belowColumn column v := by
  rcases v with - | _ | _ | _ | ⟨- | _⟩ | _ <;> simp [belowColumn]

/-- What stands between the colon behind a key and the value. -/
def belowLead (column : Nat) (v : Value) : List Char :=
  if takesLines v then '\n' :: pad (belowColumn column v) else [' ']

/-- A value stands behind its key or below it. -/
theorem writeBelow_eq (column : Nat) (v : Value) :
    writeBelow column v = belowLead column v ++ nodeText (belowColumn column v) v := by
  rcases v with - | _ | _ | _ | ⟨- | _⟩ | ⟨- | _⟩ <;> rfl

/-- A value is read behind its key: to the right of the key, or below it on lines of its own. -/
def ReadsBelow (v : Value) : Prop :=
  ∀ (found : List Token) (columns : List Nat) (keyAllowed : Bool) (column : Nat) (m : Mark)
    (behind : Behind),
    columns.head? = some column → behind.Follows (column + 1) →
    (takesLines v = true → keyAllowed = true ∧ m.column = belowColumn column v) →
    (takesLines v = false → column < m.column) →
    Settles (.of found columns keyAllowed none
        { rest := follow (nodeText (belowColumn column v) v) behind, mark := m }) columns
      (kindsOf found ++ belowTokens (valueBehind v behind)) behind

/-- Behind the colon of a key its value is next. -/
theorem reaches_below {s : Lexer} {column : Nat} {v : Value} {cs : List Char}
    (hcs : BeginsToken cs)
    (hemit : s.emit = .ok (.of found columns false none
      { rest := belowLead column v ++ cs, mark := m }))
    (hkinds : ∃ before, kindsOf found = before ++ [.value]) (hhead : columns.head? = some column)
    (hm : column < m.column) (hless : cs.length < s.cursor.rest.length) :
    ∃ keyAllowed m',
      Reaches s (.of found columns keyAllowed none { rest := cs, mark := m' }) ∧
      (takesLines v = true → keyAllowed = true ∧ m'.column = belowColumn column v) ∧
      (takesLines v = false → column < m'.column) := by
  obtain ⟨before, hbefore⟩ := hkinds
  have hgoes := isDone_eq_false (s := .of found columns false none
    { rest := belowLead column v ++ cs, mark := m }) hbefore (by simp)
  cases hlines : takesLines v with
  | true =>
      have hlead : belowLead column v = '\n' :: pad (belowColumn column v) := if_pos hlines
      have hplace :
          (m.after ('\n' :: pad (belowColumn column v))).column = belowColumn column v := by
        rw [Mark.after_cons, Mark.step_of_break m (c := '\n') rfl, pad,
          Mark.after_replicate_blank, Nat.zero_add]
      have hready := ready_line found columns false (belowColumn column v) hcs
        (rfl : Lexer.renewed (m.after ('\n' :: pad (belowColumn column v))) none = .ok none)
      obtain ⟨hnone, hall⟩ := takeWhile_of_head? hhead (le_belowColumn column v)
      rw [hnone, hall] at hready
      rw [hlead, List.cons_append] at hemit hgoes
      exact ⟨true, _, .move hemit hgoes hready hless (.refl _), fun _ => ⟨rfl, hplace⟩, by simp⟩
  | false =>
      have hlead : belowLead column v = pad 1 := by
        rw [belowLead, hlines, if_neg Bool.false_ne_true]
        rfl
      have hplace : column < (m.after (pad 1)).column := Nat.lt_succ_of_lt hm
      have hready := ready_pad found columns false 1 hcs
        (rfl : Lexer.renewed (m.after (pad 1)) none = .ok none)
      obtain ⟨hnone, hall⟩ := takeWhile_of_head? hhead (Nat.le_of_lt hplace)
      rw [hnone, hall] at hready
      rw [hlead] at hemit hgoes
      exact ⟨false, _, .move hemit hgoes hready hless (.refl _), by simp, fun _ => hplace⟩

/-- A blank or a line break stands behind the colon of a key. -/
theorem exists_belowLead (column : Nat) (v : Value) :
    ∃ c lead, belowLead column v = c :: lead ∧ isGapOrBreak c = true := by
  rw [belowLead]
  split
  · exact ⟨'\n', _, rfl, rfl⟩
  · exact ⟨' ', _, rfl, rfl⟩

/-- A key on its line with what stands behind its value. -/
theorem follow_simplePair (column : Nat) (key : List Char) {v : Value} (hv : v.IsIntegral)
    (behind : Behind) :
    follow (key ++ ':' :: writeBelow column v) behind =
      key ++ ':' :: (belowLead column v ++ follow (nodeText (belowColumn column v) v) behind) := by
  obtain ⟨d, rest, htext, hd⟩ := exists_nodeText hv (belowColumn column v)
  have hfeed : d ≠ '\n' := by
    rintro rfl
    exact absurd hd.1 (by decide)
  have hsplit : key ++ ':' :: writeBelow column v =
      key ++ ':' :: belowLead column v ++ d :: rest := by
    rw [writeBelow_eq, htext, List.append_assoc, List.cons_append]
  rw [hsplit, follow_append _ hfeed, htext, List.append_assoc, List.cons_append]

/-- **A key before a colon**, with its value. -/
theorem settles_simplePair (found : List Token) {key : List Char} (hkey : isSimpleKey key = true)
    {v : Value} (hv : v.IsIntegral) (hreads : ReadsBelow v)
    (hopens : Opens .blockMappingStart m.column columns columns' kinds)
    (hbehind : behind.Follows (m.column + 1)) :
    Settles (.of found columns true none
        { rest := follow (writeText (m.column + 2) key ++ ':' :: writeBelow m.column v) behind,
          mark := m }) columns'
      (kindsOf found ++ kinds ++ [.key, .scalar key false, .value] ++
        belowTokens (valueBehind v behind)) behind := by
  obtain ⟨c, lead, hlead, hc⟩ := exists_belowLead m.column v
  obtain ⟨d, rest, htext, hd⟩ :=
    exists_follow (exists_nodeText hv (belowColumn m.column v)) behind
  have hbegins : BeginsToken (follow (nodeText (belowColumn m.column v) v) behind) := by
    rw [htext]
    exact beginsToken_cons hd rest
  obtain ⟨s, found', m', hreaches, hemit, hrest, hright, hkinds⟩ :=
    reaches_key hkey found hopens (Nat.succ_ne_zero (m.column + 1)) hc
      (lead ++ follow (nodeText (belowColumn m.column v) v) behind)
  rw [← List.cons_append, ← hlead] at hreaches hemit hrest
  have hless : (follow (nodeText (belowColumn m.column v) v) behind).length <
      s.cursor.rest.length := by
    rw [hrest, List.length_cons, List.length_append]
    omega
  obtain ⟨keyAllowed, m'', hbelow, hlines, hleaf⟩ := reaches_below hbegins hemit
    ⟨kindsOf found ++ kinds ++ [.key, .scalar key false], by rw [hkinds]; simp⟩ hopens.head? hright
    hless
  rw [follow_simplePair _ _ hv, ← hkinds]
  exact (hreads found' columns' keyAllowed m.column m'' behind hopens.head? hbehind hlines
    hleaf).of_reaches (hreaches.trans hbelow)

/-- A key on lines of its own with what stands behind its value. -/
theorem follow_complexPair (column : Nat) {key : List Char} (hkey : key ≠ []) {v : Value}
    (hv : v.IsIntegral) (behind : Behind) :
    follow (endedLine ('?' :: ' ' :: key) ++ pad column ++ ':' :: writeInline column v) behind =
      '?' :: ' ' :: follow key
        (.line column ':' (' ' :: follow (nodeText (column + 2) v) behind)) := by
  have hended : endedLine ('?' :: ' ' :: key) = '?' :: ' ' :: endedLine key :=
    endedLine_append ['?', ' '] hkey
  rw [follow_append _ (by decide), writeInline_eq, follow_mark (by decide) (exists_nodeText hv _),
    hended, follow]
  simp

/-- **A key on lines of its own**, with its value. -/
theorem settles_complexPair (found : List Token) (key : List Char) {v : Value} (hv : v.IsIntegral)
    (hreads : ReadsInline v) (hopens : Opens .blockMappingStart m.column columns columns' kinds)
    (hbehind : behind.Follows (m.column + 1)) :
    Settles (.of found columns true none
        { rest := follow (endedLine ('?' :: ' ' :: writeText (m.column + 2) key) ++ pad m.column ++
            ':' :: writeInline m.column v) behind, mark := m }) columns'
      (kindsOf found ++ kinds ++ [.key, .scalar key false, .value] ++
        nodeTokens (valueBehind v behind)) behind := by
  obtain ⟨d, ds, htext, hd⟩ := exists_writeText (m.column + 2) key
  obtain ⟨e, es, hfollow, he⟩ := exists_follow ⟨d, ds, htext, hd⟩
    (.line m.column ':' (' ' :: follow (nodeText (m.column + 2) v) behind))
  have hbegins : BeginsToken (follow (writeText (m.column + 2) key)
      (.line m.column ':' (' ' :: follow (nodeText (m.column + 2) v) behind))) := by
    rw [hfollow]
    exact beginsToken_cons he es
  obtain ⟨found₁, m₁, hmark, hcolumn₁, hkinds₁⟩ :=
    reaches_entryMark found columns .key hopens hbegins
  have hmargin := marginOf_of_head? hopens.head?
  have hline : Behind.Follows (marginOf columns')
      (.line m.column ':' (' ' :: follow (nodeText (m.column + 2) v) behind)) := by
    rw [hmargin]
    exact ⟨⟨Nat.lt_succ_self _, rfl⟩, beginsToken_cons ⟨rfl, by decide, by decide⟩ _⟩
  have hright : ∀ n, columns'.head? = some n → n < m₁.column := by
    rw [hopens.head?, hcolumn₁]
    simp
  have hkey := settles_text key found₁ true hright hline
  rw [hmargin] at hkey
  obtain ⟨found₂, m₂, hvalue, hcolumn₂, hkinds₂⟩ := hkey
  obtain ⟨hnone, hall⟩ := takeWhile_of_head? hopens.head? (Nat.le_refl m.column)
  rw [hall] at hvalue
  rw [hnone, hkinds₁] at hkinds₂
  have hinside : Opens .blockMappingStart m₂.column columns' columns' [] :=
    .inside (by rw [hcolumn₂, hopens.head?])
  have hentry := settles_entry found₂ .value hinside hv hreads (by rw [hcolumn₂]; exact hbehind)
  rw [hcolumn₂, hkinds₂] at hentry
  have hpair := (hentry.of_reaches hvalue).of_reaches hmark
  rw [follow_complexPair _ (by rw [htext]; simp) hv]
  simpa [textBehind] using hpair

/-! ### Members -/

/-- What is written for a member. -/
def pairText (column : Nat) (k : String) (v : Value) : List Char :=
  if isSimpleKey k.toList then writeText (column + 2) k.toList ++ ':' :: writeBelow column v
  else
    endedLine ('?' :: ' ' :: writeText (column + 2) k.toList) ++ pad column ++
      ':' :: writeInline column v

/-- The members are written one by one. -/
theorem writePairs_cons (column : Nat) (k : String) (v : Value) (ms : List (String × Value)) :
    writePairs column ((k, v) :: ms) = pairText column k v :: writePairs column ms := by
  rw [writePairs, pairText]

/-- The tokens of the value of a member. -/
def valueTokens (k : String) (v : Value) : List TokenKind :=
  if isSimpleKey k.toList then belowTokens v else nodeTokens v

/-- A value is read where it may stand. -/
structure Reads (v : Value) : Prop where
  /-- Its numbers are integers. -/
  integral : v.IsIntegral
  /-- It is read behind a mark. -/
  inline : ReadsInline v
  /-- It is read behind a key. -/
  below : ReadsBelow v

/-- **A member.** -/
theorem settles_pair (found : List Token) (k : String) {v : Value} (hv : Reads v)
    (hopens : Opens .blockMappingStart m.column columns columns' kinds)
    (hbehind : behind.Follows (m.column + 1)) :
    Settles (.of found columns true none
        { rest := follow (pairText m.column k v) behind, mark := m }) columns'
      (kindsOf found ++ kinds ++ [.key, .scalar k.toList false, .value] ++
        valueTokens k (valueBehind v behind)) behind := by
  rw [pairText, valueTokens]
  split
  · next hkey => exact settles_simplePair found hkey hv.integral hv.below hopens hbehind
  · exact settles_complexPair found k.toList hv.integral hv.inline hopens hbehind

/-- One member is read last. -/
theorem membersBehind_singleton (k : String) (v : Value) (behind : Behind) :
    membersBehind [(k, v)] behind = [(k, valueBehind v behind)] := by
  cases behind <;> rfl

/-- All members but the last are read as they are. -/
theorem membersBehind_cons_cons (x y : String × Value) (ms : List (String × Value))
    (behind : Behind) :
    membersBehind (x :: y :: ms) behind = x :: membersBehind (y :: ms) behind := by
  cases behind <;> rfl

/-- **The members of a mapping.** -/
theorem settles_pairs (found : List Token) {ms : List (String × Value)} (hne : ms ≠ [])
    (hms : ∀ k v, (k, v) ∈ ms → Reads v)
    (hopens : Opens .blockMappingStart m.column columns columns' kinds)
    (hbehind : behind.Follows (m.column + 1)) :
    Settles (.of found columns true none
        { rest := follow (stack m.column (writePairs m.column ms)) behind, mark := m }) columns'
      (kindsOf found ++ kinds ++ pairTokens (membersBehind ms behind)) behind := by
  induction ms generalizing found columns columns' kinds m behind with
  | nil => exact absurd rfl hne
  | cons x ms ih =>
      obtain ⟨k, v⟩ := x
      rw [Keyed.forall_mem_cons] at hms
      rcases ms with - | ⟨⟨l, w⟩, ms⟩
      · have hpair := settles_pair found k hms.1 hopens hbehind
        rw [writePairs_cons, writePairs, stack, membersBehind_singleton, pairTokens, pairTokens,
          List.append_nil]
        simpa [valueTokens] using hpair
      · rw [membersBehind_cons_cons, pairTokens]
        have hpair : ∀ d rest, StartsToken d →
            Settles (.of found columns true none
              { rest := follow (pairText m.column k v) (.line m.column d rest), mark := m })
              columns' (kindsOf found ++ kinds ++ [.key, .scalar k.toList false, .value] ++
                valueTokens k v) (.line m.column d rest) := by
          intro d rest hd
          exact settles_pair found k hms.1 hopens
            ⟨⟨Nat.lt_succ_self _, hd.1⟩, beginsToken_cons hd rest⟩
        obtain ⟨c, pair, pairs, hpairs, hc⟩ := exists_writePairs m.column l w ms
        obtain ⟨more, hmore⟩ := exists_stack m.column (rfl : c :: pair = _) pairs
        have hnext : ∃ d rest, stack m.column (pairText m.column l w :: writePairs m.column ms) =
            d :: rest ∧ StartsToken d := by
          rw [← writePairs_cons, hpairs]
          exact ⟨c, more, hmore, hc⟩
        rw [writePairs_cons, writePairs_cons]
        refine settles_stack _ hopens.head? hnext hpair (fun found' m' hm' hkinds' => ?_)
        have hinside : Opens .blockMappingStart m'.column columns' columns' [] :=
          .inside (by rw [hm', hopens.head?])
        have hrest := @ih columns' columns' [] m' behind found' (by simp) hms.2 hinside
          (by rw [hm']; exact hbehind)
        rw [hm', hkinds', writePairs_cons] at hrest
        simpa [valueTokens] using hrest

/-! ### Values -/

/-- Items stay items. -/
theorem itemsBehind_ne_nil {vs : List Value} (h : vs ≠ []) (behind : Behind) :
    itemsBehind vs behind ≠ [] := by
  obtain ⟨v, vs, rfl⟩ := List.exists_cons_of_ne_nil h
  rcases vs with - | ⟨w, vs⟩
  · simp [itemsBehind_singleton]
  · simp [itemsBehind_cons_cons]

/-- Members stay members. -/
theorem membersBehind_ne_nil {ms : List (String × Value)} (h : ms ≠ []) (behind : Behind) :
    membersBehind ms behind ≠ [] := by
  obtain ⟨⟨k, v⟩, ms, rfl⟩ := List.exists_cons_of_ne_nil h
  rcases ms with - | ⟨y, ms⟩
  · simp [membersBehind_singleton]
  · simp [membersBehind_cons_cons]

/-- What is read for an array is read for its items. -/
theorem valueBehind_array (vs : List Value) (behind : Behind) :
    valueBehind (.array vs) behind = .array (itemsBehind vs behind) := by
  cases behind <;> rfl

/-- What is read for an object is read for its members. -/
theorem valueBehind_object (ms : List (String × Value)) (behind : Behind) :
    valueBehind (.object ms) behind = .object (membersBehind ms behind) := by
  cases behind <;> rfl

/-- The tokens of a sequence. -/
theorem nodeTokens_array {vs : List Value} (h : vs ≠ []) :
    nodeTokens (.array vs) = .blockSequenceStart :: (itemTokens vs ++ [.blockEnd]) := by
  obtain ⟨v, vs, rfl⟩ := List.exists_cons_of_ne_nil h
  rw [nodeTokens]

/-- The tokens of a sequence in the column of its key. -/
theorem belowTokens_array {vs : List Value} (h : vs ≠ []) :
    belowTokens (.array vs) = itemTokens vs := by
  obtain ⟨v, vs, rfl⟩ := List.exists_cons_of_ne_nil h
  rw [belowTokens]

/-- The tokens of a mapping. -/
theorem nodeTokens_object {ms : List (String × Value)} (h : ms ≠ []) :
    nodeTokens (.object ms) = .blockMappingStart :: (pairTokens ms ++ [.blockEnd]) := by
  obtain ⟨m, ms, rfl⟩ := List.exists_cons_of_ne_nil h
  rw [nodeTokens]

/-- The tokens of a mapping below its key. -/
theorem belowTokens_object {ms : List (String × Value)} (h : ms ≠ []) :
    belowTokens (.object ms) = nodeTokens (.object ms) := by
  obtain ⟨m, ms, rfl⟩ := List.exists_cons_of_ne_nil h
  rw [belowTokens, nodeTokens]

/-- **A sequence**, further to the right than the collection around it. -/
theorem settles_sequence (found : List Token) {vs : List Value} (hne : vs ≠ [])
    (hvs : ∀ v ∈ vs, Reads v) (hmargin : marginOf columns ≤ m.column)
    (hbehind : behind.Follows m.column) :
    Settles (.of found columns true none
        { rest := follow (nodeText m.column (.array vs)) behind, mark := m }) columns
      (kindsOf found ++ nodeTokens (valueBehind (.array vs) behind)) behind := by
  have hitems := settles_items found hne
    (fun v hv => ⟨(hvs v hv).integral, (hvs v hv).inline⟩) (.new hmargin)
    (hbehind.mono (Nat.le_succ _))
  have htext : nodeText m.column (.array vs) = stack m.column (writeItems m.column vs) := by
    obtain ⟨v, vs, rfl⟩ := List.exists_cons_of_ne_nil hne
    rw [nodeText]
  rw [htext, valueBehind_array, nodeTokens_array (itemsBehind_ne_nil hne behind)]
  simpa using hitems.close hbehind.left

/-- **A mapping**, further to the right than the collection around it. -/
theorem settles_mapping (found : List Token) {ms : List (String × Value)} (hne : ms ≠ [])
    (hms : ∀ k v, (k, v) ∈ ms → Reads v) (hmargin : marginOf columns ≤ m.column)
    (hbehind : behind.Follows m.column) :
    Settles (.of found columns true none
        { rest := follow (nodeText m.column (.object ms)) behind, mark := m }) columns
      (kindsOf found ++ nodeTokens (valueBehind (.object ms) behind)) behind := by
  have hpairs := settles_pairs found hne hms (.new hmargin) (hbehind.mono (Nat.le_succ _))
  have htext : nodeText m.column (.object ms) = stack m.column (writePairs m.column ms) := by
    obtain ⟨x, ms, rfl⟩ := List.exists_cons_of_ne_nil hne
    rw [nodeText]
  rw [htext, valueBehind_object, nodeTokens_object (membersBehind_ne_nil hne behind)]
  simpa using hpairs.close hbehind.left

/-- A value without lines of its own is written and read as a scalar is. -/
theorem of_takesLines_eq_false {v : Value} (h : takesLines v = false) (column : Nat)
    (behind : Behind) :
    nodeText column v = writeScalar column v ∧ belowColumn column v = column + 2 ∧
      nodeTokens (valueBehind v behind) = leafTokens (valueBehind v behind) ∧
      belowTokens (valueBehind v behind) = leafTokens (valueBehind v behind) := by
  rcases v with - | _ | _ | _ | ⟨- | _⟩ | ⟨- | _⟩
  case array.cons => exact absurd h (by simp [takesLines])
  case object.cons => exact absurd h (by simp [takesLines])
  all_goals cases behind <;> exact ⟨rfl, rfl, rfl, rfl⟩

/-- A value without lines of its own is read where it may stand. -/
theorem reads_leaf {v : Value} (hv : v.IsIntegral) (h : takesLines v = false) : Reads v := by
  have hleaf : ∀ (found : List Token) (columns : List Nat) (keyAllowed : Bool) (column : Nat)
      (m : Mark) (behind : Behind), columns.head? = some column → column < m.column →
      behind.Follows (column + 1) →
      Settles (.of found columns keyAllowed none
          { rest := follow (writeScalar (column + 2) v) behind, mark := m }) columns
        (kindsOf found ++ leafTokens (valueBehind v behind)) behind := by
    intro found columns keyAllowed column m behind hhead hright hbehind
    have hmargin := marginOf_of_head? hhead
    have hcolumn : ∀ n, columns.head? = some n → n < m.column := by
      intro n hn
      rw [hhead] at hn
      rwa [← Option.some.inj hn]
    have hfollows : behind.Follows (marginOf columns) := by rwa [hmargin]
    have hsettles := settles_leaf hv found keyAllowed hcolumn hfollows
    rwa [hmargin] at hsettles
  refine ⟨hv, fun found columns column m behind hhead hm hbehind => ?_,
    fun found columns keyAllowed column m behind hhead hbehind _ hright => ?_⟩
  · obtain ⟨htext, -, htokens, -⟩ := of_takesLines_eq_false h (column + 2) behind
    rw [htext, htokens]
    exact hleaf found columns true column m behind hhead (by omega) hbehind
  · obtain ⟨-, hcolumn, -, htokens⟩ := of_takesLines_eq_false h column behind
    rw [hcolumn, (of_takesLines_eq_false h (column + 2) behind).1, htokens]
    exact hleaf found columns keyAllowed column m behind hhead (hright h) hbehind

/-- A sequence is read where it may stand: in the column of its key it needs no tokens of its
own. -/
theorem reads_array {vs : List Value} (hne : vs ≠ []) (hvs : ∀ v ∈ vs, Reads v) :
    Reads (.array vs) := by
  have hcolumn : ∀ column, belowColumn column (.array vs) = column := by
    obtain ⟨v, vs, rfl⟩ := List.exists_cons_of_ne_nil hne
    exact fun _ => rfl
  have hlines : takesLines (.array vs) = true := by
    obtain ⟨v, vs, rfl⟩ := List.exists_cons_of_ne_nil hne
    rfl
  have htext : ∀ column, nodeText column (.array vs) = stack column (writeItems column vs) := by
    obtain ⟨v, vs, rfl⟩ := List.exists_cons_of_ne_nil hne
    exact fun _ => by rw [nodeText]
  refine ⟨Value.isIntegral_array_iff.mpr fun v hv => (hvs v hv).integral,
    fun found columns column m behind hhead hm hbehind => ?_,
    fun found columns keyAllowed column m behind hhead hbehind hplace _ => ?_⟩
  · have hmargin : marginOf columns ≤ m.column := by
      rw [marginOf_of_head? hhead]
      omega
    rw [← hm]
    exact settles_sequence found hne hvs hmargin (hbehind.mono (by omega))
  · obtain ⟨rfl, hm⟩ := hplace hlines
    rw [hcolumn] at hm ⊢
    subst hm
    have hitems := settles_items found hne
      (fun v hv => ⟨(hvs v hv).integral, (hvs v hv).inline⟩) (.inside hhead) hbehind
    rw [valueBehind_array, belowTokens_array (itemsBehind_ne_nil hne behind), htext]
    simpa using hitems

/-- A mapping is read where it may stand. -/
theorem reads_object {ms : Members} (hne : ms ≠ []) (hms : ∀ k v, (k, v) ∈ ms → Reads v) :
    Reads (.object ms) := by
  have hlines : takesLines (.object ms) = true := by
    obtain ⟨x, ms, rfl⟩ := List.exists_cons_of_ne_nil hne
    rfl
  have hmapping : ∀ (found : List Token) (columns : List Nat) (column : Nat) (m : Mark)
      (behind : Behind), columns.head? = some column → m.column = column + 2 →
      behind.Follows (column + 1) →
      Settles (.of found columns true none
          { rest := follow (nodeText (column + 2) (.object ms)) behind, mark := m }) columns
        (kindsOf found ++ nodeTokens (valueBehind (.object ms) behind)) behind := by
    intro found columns column m behind hhead hm hbehind
    have hmargin : marginOf columns ≤ m.column := by
      rw [marginOf_of_head? hhead]
      omega
    rw [← hm]
    exact settles_mapping found hne hms hmargin (hbehind.mono (by omega))
  refine ⟨Value.isIntegral_object_iff.mpr fun k v h => (hms k v h).integral, hmapping,
    fun found columns keyAllowed column m behind hhead hbehind hplace _ => ?_⟩
  obtain ⟨rfl, hm⟩ := hplace hlines
  rw [valueBehind_object, belowTokens_object (membersBehind_ne_nil hne behind),
    ← valueBehind_object]
  exact hmapping found columns column m behind hhead hm hbehind

/-- **Every value is read where it may stand.** -/
theorem reads_of_isIntegral {v : Value} (hv : v.IsIntegral) : Reads v := by
  induction v using Value.induct with
  | null => exact reads_leaf hv rfl
  | bool b => exact reads_leaf hv rfl
  | number n => exact reads_leaf hv rfl
  | string s => exact reads_leaf hv rfl
  | array vs ih =>
      by_cases hne : vs = []
      · subst hne
        exact reads_leaf hv rfl
      · exact reads_array hne fun v hmem => ih v hmem (Value.isIntegral_array_iff.mp hv v hmem)
  | object ms ih =>
      by_cases hne : ms = []
      · subst hne
        exact reads_leaf hv rfl
      · exact reads_object hne fun k v hmem =>
          ih k v hmem (Value.isIntegral_object_iff.mp hv k v hmem)

end JsonWorkbench.Yaml
