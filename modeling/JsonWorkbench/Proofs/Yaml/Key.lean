import JsonWorkbench.Proofs.Yaml.Scalar

/-!
# Keys

A key of at most 128 bytes without line breaks is written before a colon on one line. What is
written for a byte has at most four characters, so that the colon comes early enough for the
candidate that the key is; the tokens for the mapping and the key are then put in before it.

## Main results

* `length_writeText` — a key on one line lasts.
* `reaches_key` — a key with the colon behind it.
-/

namespace JsonWorkbench.Yaml

/-! ### The length of a key -/

/-- A text has no more characters than bytes. -/
theorem length_le_byteLength (cs : List Char) : cs.length ≤ Text.byteLength cs := by
  induction cs with
  | nil => exact Nat.le_refl _
  | cons c cs ih =>
      have hpos : 0 < c.utf8Size := Char.utf8Size_pos c
      rw [List.length_cons, Text.byteLength]
      omega

/-- The number of bytes of a character. -/
theorem utf8Size_eq (c : Char) :
    c.utf8Size =
      if c.toNat ≤ 0x7F then 1 else if c.toNat ≤ 0x7FF then 2 else if c.toNat ≤ 0xFFFF then 3 else 4 := by
  rw [Char.utf8Size]
  simp only [UInt32.le_iff_toNat_le]
  rfl

/-- A character in double quotes takes at most four characters for each of its bytes. -/
theorem length_escapeDouble_le (c : Char) : (escapeDouble c).length ≤ 4 * c.utf8Size := by
  have hpos : 0 < c.utf8Size := Char.utf8Size_pos c
  cases hraw : isRaw c with
  | true =>
      rw [escapeDouble_of_isRaw hraw, List.length_singleton]
      omega
  | false =>
      have hnot : (isWritable c && !breaksLine c && c ≠ '"' && c ≠ '\\') = false := hraw
      have hvalid : c.toNat < 0xD800 ∨ (0xDFFF < c.toNat ∧ c.toNat < 0x110000) := c.valid
      rw [escapeDouble, hnot, if_neg Bool.false_ne_true]
      split
      · simp only [List.length_cons, List.length_nil]
        omega
      · have hsize := utf8Size_eq c
        dsimp only
        split_ifs with hbyte hplane <;> rw [List.length_cons, List.length_cons,
          Text.length_hexText (by decide) (by omega)] <;> split_ifs at hsize <;> omega

/-- A text in double quotes takes at most four characters for each byte. -/
theorem length_flatMap_escapeDouble_le (cs : List Char) :
    (cs.flatMap escapeDouble).length ≤ 4 * Text.byteLength cs := by
  induction cs with
  | nil => exact Nat.le_refl _
  | cons c cs ih =>
      have hle := length_escapeDouble_le c
      rw [List.flatMap_cons, List.length_append, Text.byteLength]
      omega

/-- A text on one line in single quotes takes at most two characters for each. -/
theorem length_writeSingle_le (column : Nat) {cs : List Char} (h : ∀ c ∈ cs, breaksLine c = false) :
    (writeSingle column false cs).length ≤ 2 * cs.length := by
  induction cs with
  | nil => exact Nat.le_refl _
  | cons c cs ih =>
      rw [List.forall_mem_cons] at h
      have hle := ih h.2
      rw [writeSingle, h.1]
      simp only [Bool.false_eq_true, if_false, List.nil_append, List.length_append,
        List.length_cons]
      split <;> simp only [List.length_cons, List.length_nil] <;> omega

/-- A text on one line in single quotes has no line breaks. -/
theorem writeSingle_no_break (column : Nat) {cs : List Char} (h : ∀ c ∈ cs, breaksLine c = false) :
    ∀ c ∈ writeSingle column false cs, breaksLine c = false := by
  induction cs with
  | nil => simp [writeSingle]
  | cons c cs ih =>
      rw [List.forall_mem_cons] at h
      intro d hd
      rw [writeSingle, h.1] at hd
      simp only [Bool.false_eq_true, if_false, List.nil_append, List.mem_append] at hd
      rcases hd with hd | hd
      · have hdc : d = c := by
          split at hd <;> simpa using hd
        rw [hdc, h.1]
      · exact ih h.2 d hd

/-- A key before a colon has no line breaks. -/
theorem breaksLine_of_isSimpleKey {cs : List Char} (h : isSimpleKey cs = true) :
    ∀ c ∈ cs, breaksLine c = false := by
  simp only [isSimpleKey, Bool.and_eq_true, Bool.not_eq_true', List.any_eq_false] at h
  exact fun c hc => by simpa using h.2 c hc

/-- A key before a colon is no block. -/
theorem styleOf_of_isSimpleKey {cs : List Char} (h : isSimpleKey cs = true) :
    styleOf cs ≠ .literal := by
  have hfeed : cs.contains '\n' = false := by
    rw [← Bool.not_eq_true, List.contains_iff_mem]
    intro hmem
    exact absurd (breaksLine_of_isSimpleKey h _ hmem) (by decide)
  simp only [styleOf, hfeed, Bool.false_eq_true, if_false]
  split
  · simp
  · split <;> simp

/-- **A key before a colon** takes one line and not many characters. -/
theorem length_writeText {cs : List Char} (h : isSimpleKey cs = true) (column : Nat) :
    (∀ c ∈ writeText column cs, isBreak c = false) ∧ (writeText column cs).length ≤ 1024 := by
  have hbreaks := breaksLine_of_isSimpleKey h
  have hbytes : Text.byteLength cs ≤ 128 := by
    simp only [isSimpleKey, Bool.and_eq_true, decide_eq_true_eq] at h
    exact h.1
  have hlength := length_le_byteLength cs
  cases hstyle : styleOf cs with
  | literal => exact absurd hstyle (styleOf_of_isSimpleKey h)
  | plain =>
      have hle : cs.length ≤ 1024 := by omega
      rw [writeText, hstyle]
      exact ⟨fun c hc => isBreak_eq_false (hbreaks c hc), hle⟩
  | single =>
      have hle := length_writeSingle_le column hbreaks
      rw [writeText, hstyle]
      refine ⟨fun c hc => ?_, ?_⟩
      · rw [List.mem_cons, List.mem_append, List.mem_singleton] at hc
        rcases hc with rfl | hc | rfl
        · rfl
        · exact isBreak_eq_false (writeSingle_no_break column hbreaks c hc)
        · rfl
      · simp only [List.length_cons, List.length_append, List.length_nil]
        omega
  | double =>
      have hle := length_flatMap_escapeDouble_le cs
      rw [writeText, hstyle]
      refine ⟨fun c hc => ?_, ?_⟩
      · rw [List.mem_cons, List.mem_append, List.mem_singleton, List.mem_flatMap] at hc
        rcases hc with rfl | ⟨d, -, hd⟩ | rfl
        · rfl
        · exact isBreak_eq_false (writable_of_mem_escapeDouble hd).2
        · rfl
      · simp only [List.length_cons, List.length_append, List.length_nil]
        omega

/-! ### Keys and their colons -/

variable {found : List Token} {columns : List Nat} {m : Mark}

/-- A candidate lasts on its line. -/
theorem renewed_offered (found : List Token) (columns : List Nat) (keyAllowed : Bool)
    {text : List Char} (hbreak : ∀ c ∈ text, isBreak c = false) (hlength : text.length ≤ 1024)
    (m : Mark) :
    Lexer.renewed (m.after text) (offered found columns keyAllowed m) =
      .ok (offered found columns keyAllowed m) := by
  cases keyAllowed with
  | false => rfl
  | true =>
      have hlasts : ∀ k : Candidate, k.mark = m →
          Lexer.Candidate.lasts k (m.after text) = true := by
        intro k hk
        rw [Lexer.Candidate.lasts, hk, Mark.after_of_no_break m hbreak]
        simp [hlength]
      rw [offered, if_pos rfl, Lexer.renewed, hlasts _ rfl, if_pos rfl]

/-- A key is taken up to its colon. -/
theorem emit_key (found : List Token) {cs : List Char} (hkey : isSimpleKey cs = true)
    {column : Nat} (hcolumn : column ≠ 0) (hmargin : marginOf columns ≤ m.column + 1) {c : Char}
    (hc : isGapOrBreak c = true) (rest : List Char) :
    ∃ plain, (plain && !readsAsText cs) = false ∧
      (Lexer.of found columns true none
        { rest := writeText column cs ++ ':' :: c :: rest, mark := m }).emit =
        .ok (.of ({ line := m.line + 1, kind := .scalar cs plain } :: found) columns false
          (offered found columns true m)
          { rest := ':' :: c :: rest, mark := m.after (writeText column cs) }) := by
  obtain ⟨hbreak, hlength⟩ := length_writeText hkey column
  have hkept := renewed_offered found columns true hbreak hlength m
  cases hstyle : styleOf cs with
  | literal => exact absurd hstyle (styleOf_of_isSimpleKey hkey)
  | plain =>
      obtain ⟨hplain, hreads, -⟩ := of_style_plain hstyle
      refine ⟨true, by rw [hreads]; rfl, ?_⟩
      have htext : writeText column cs = cs := by rw [writeText, hstyle]
      rw [htext] at hkept ⊢
      exact emit_plain hplain hmargin (.colon c rest hc) hkept
  | single =>
      refine ⟨false, rfl, ?_⟩
      have htext : writeText column cs = '\'' :: singleTail column cs := by
        rw [writeText, hstyle, singleTail]
      rw [htext] at hkept ⊢
      have hplace : (m.step '\'').column ≠ 0 := by simp [Mark.step, isBreak]
      have hnext : (':' :: c :: rest).head? ≠ some '\'' := by simp
      exact emit_quoted false (readQuoted_single hcolumn (of_style_single hstyle).1 hnext hplace)
        hkept
  | double =>
      refine ⟨false, rfl, ?_⟩
      have htext : writeText column cs = '"' :: doubleTail cs := by
        rw [writeText, hstyle, doubleTail]
      rw [htext] at hkept ⊢
      have hplace : (m.step '"').column ≠ 0 := by simp [Mark.step, isBreak]
      exact emit_quoted true (readQuoted_double cs (':' :: c :: rest) hplace) hkept

/-- The colon behind a key is taken, and the tokens for the key are put in before it. -/
theorem emit_colon (found : List Token) {columns columns' : List Nat} {m : Mark}
    {kinds : List TokenKind} (hopens : Opens .blockMappingStart m.column columns columns' kinds)
    (t : Token) (required : Bool) {c : Char} (hc : isGapOrBreak c = true) (rest : List Char)
    (at_ : Mark) :
    ∃ found',
      (Lexer.of (t :: found) columns false
        (some { number := found.length, required, mark := m })
        { rest := ':' :: c :: rest, mark := at_ }).emit =
        .ok (.of found' columns' false none { rest := c :: rest, mark := at_.step ':' }) ∧
      kindsOf found' = kindsOf found ++ kinds ++ [.key, t.kind.settled, .value] := by
  obtain ⟨candidate, hcandidate⟩ : ∃ candidate : Option Candidate,
      some { number := found.length, required, mark := m } = candidate := ⟨_, rfl⟩
  have hinsert := insertAt_of found columns false [t] candidate
    { rest := ':' :: c :: rest, mark := at_ } .key m
  obtain ⟨found', hopened, hkinds⟩ := openBlock_of found columns false rfl hopens
    [t, { line := m.line + 1, kind := .key }] candidate { rest := ':' :: c :: rest, mark := at_ }
  refine ⟨⟨at_.line + 1, .value⟩ :: t :: ⟨m.line + 1, .key⟩ :: found', ?_, ?_⟩
  · have hdispatch : ∀ s : Lexer, s.cursor = { rest := ':' :: c :: rest, mark := at_ } →
        s.dispatch ':' = s.takeColon := by
      intro s hs
      have halone : endsWord (some c) = true := hc
      simp [Lexer.dispatch, hs, Cursor.isAtTriple, Cursor.peek, halone]
    have htaken := hdispatch (.of (t :: found) columns false candidate
      { rest := ':' :: c :: rest, mark := at_ }) rfl
    have htake : (Lexer.of (t :: found) columns false candidate
        { rest := ':' :: c :: rest, mark := at_ }).takeColon =
          .ok (.of (⟨at_.line + 1, .value⟩ :: t :: ⟨m.line + 1, .key⟩ :: found') columns' false none
            { rest := c :: rest, mark := at_.step ':' }) := by
      have htoken : (Lexer.of (t :: found) columns false candidate
          { rest := ':' :: c :: rest, mark := at_ }).takeColon =
            .ok { (((Lexer.of (t :: found) columns false candidate
              { rest := ':' :: c :: rest, mark := at_ }).insertAt found.length .key m).openBlock
                .blockMappingStart m found.length).take .value 1 with
                  candidate := none, keyAllowed := false } := by
        rw [← hcandidate]
        rfl
      rw [List.singleton_append, List.singleton_append] at hinsert
      rw [List.cons_append, List.cons_append, List.nil_append] at hopened
      rw [htoken, hinsert, hopened]
      rfl
    rw [htake] at htaken
    rw [hcandidate, emit_of_dispatch rfl htaken, renewCandidates_of]
    rfl
  · rw [kindsOf_cons, kindsOf_cons, kindsOf_cons, hkinds]
    simp [TokenKind.settled]

/-- **A key with the colon behind it**: the entry has begun, and its value follows. -/
theorem reaches_key {cs : List Char} (hkey : isSimpleKey cs = true) (found : List Token)
    {columns columns' : List Nat} {m : Mark} {kinds : List TokenKind}
    (hopens : Opens .blockMappingStart m.column columns columns' kinds) {column : Nat}
    (hcolumn : column ≠ 0) {c : Char} (hc : isGapOrBreak c = true) (rest : List Char) :
    ∃ s found' m',
      Reaches (.of found columns true none
        { rest := writeText column cs ++ ':' :: c :: rest, mark := m }) s ∧
      s.emit = .ok (.of found' columns' false none { rest := c :: rest, mark := m' }) ∧
      s.cursor.rest = ':' :: c :: rest ∧ m.column < m'.column ∧
      kindsOf found' = kindsOf found ++ kinds ++ [.key, .scalar cs false, .value] := by
  obtain ⟨hbreak, hlength⟩ := length_writeText hkey column
  have hplace := Mark.after_of_no_break m hbreak
  obtain ⟨plain, hplain, hemit⟩ := emit_key found hkey hcolumn hopens.marginOf_le hc rest
  have hgoes := isDone_eq_false (s := .of
    ({ line := m.line + 1, kind := .scalar cs plain } :: found) columns false
    (offered found columns true m)
    { rest := ':' :: c :: rest, mark := m.after (writeText column cs) }) (kindsOf_cons _ found)
    (by simp [TokenKind.settled])
  have hbegins : BeginsToken (':' :: c :: rest) :=
    beginsToken_cons ⟨rfl, by decide, by decide⟩ _
  have hready := ready_here ({ line := m.line + 1, kind := .scalar cs plain } :: found) columns
    false hbegins (renewed_offered found columns true hbreak hlength m)
  have hinside : ∀ n, columns.head? = some n → n ≤ (m.after (writeText column cs)).column := by
    intro n hn
    rw [hplace]
    exact Nat.le_trans (hopens.le_column hn) (Nat.le_add_right _ _)
  obtain ⟨hnone, hall⟩ := takeWhile_columns hinside
  rw [hnone, hall] at hready
  obtain ⟨found', hcolon, hkinds⟩ := emit_colon found hopens
    { line := m.line + 1, kind := .scalar cs plain } (columns.head? == some m.column) hc rest
    (m.after (writeText column cs))
  refine ⟨_, found', _, .move hemit hgoes hready ?_ (.refl _), hcolon, rfl, ?_, ?_⟩
  · obtain ⟨d, ds, htext, -⟩ := exists_writeText column cs
    rw [htext]
    simp only [Lexer.of, List.length_append, List.length_cons]
    omega
  · have hstep : ((m.after (writeText column cs)).step ':').column =
        (m.after (writeText column cs)).column + 1 := rfl
    rw [hstep, hplace]
    simp only
    omega
  · rw [hkinds, TokenKind.settled, hplain]

end JsonWorkbench.Yaml
