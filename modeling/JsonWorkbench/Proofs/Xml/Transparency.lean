import JsonWorkbench.Proofs.Xml.Skipping

/-!
# Comments and Attributes Are Transparent

A well-formed document is read as what it means, and so comments and attributes make no difference,
if no comment is cut short (`Proofs.Xml.Skipping`).

Elements are read as in `Proofs.Xml.Element`, for every text that may stand behind them. Text is
read up to the next bracket; a run of characters and references is collected until there is one.

## Main definitions

* `ReadsContent` — the text of a content with the closing tag at its end.
* `IsRun` — text between two brackets, and what it stands for.

## Main results

* `readsContent_texts`, `Node.isReadBack` — contents and elements are read as what they stand for.
* `decode_text` — a document whose comments are not cut short is read as what it means.
* `decode_eq_of_stripped_eq` — comments and attributes make no difference to what is read.
* `not_forall_decode_eq` — a comment that is cut short does.
-/

namespace JsonWorkbench.Xml

/-! ### Contents -/

/-- A text, with the closing tag at its end, is read as a content, whatever stands behind it. -/
def ReadsContent (name text : List Char) (c : Content) : Prop :=
  ∀ (fuel : Nat) (rest : List Char), text.length ≤ fuel →
    readContent fuel name (text ++ rest) = .ok (c, rest)

/-- A run of text between two brackets, and what it stands for in front of any text. -/
structure IsRun (text means : List Char) : Prop where
  bracket : '<' ∉ text
  unescape : ∀ more, Xml.unescape (text ++ more) = means ++ Xml.unescape more

namespace IsRun

variable {text means : List Char}

/-- No text stands for none. -/
theorem nil : IsRun [] [] := ⟨List.not_mem_nil, fun _ => rfl⟩

/-- A run stands for its text with the entities undone. -/
theorem unescape_eq (h : IsRun text means) : Xml.unescape text = means := by
  have hnil := h.unescape []
  rwa [List.append_nil, show Xml.unescape [] = [] from rfl, List.append_nil] at hnil

/-- One run behind another. -/
theorem append {text' means' : List Char} (h : IsRun text means) (h' : IsRun text' means') :
    IsRun (text ++ text') (means ++ means') where
  bracket := by
    rw [List.mem_append, not_or]
    exact ⟨h.bracket, h'.bracket⟩
  unescape more := by rw [List.append_assoc, h.unescape, h'.unescape, List.append_assoc]

/-- Text without ampersands stands for itself. -/
theorem literal {cs : List Char} (hbracket : '<' ∉ cs) (hamp : '&' ∉ cs) : IsRun cs cs where
  bracket := hbracket
  unescape := unescapeFrom_append_of_not_mem hamp

/-- A character of text stands for itself. -/
theorem char {c : Char} (hc : c ≠ '<' ∧ c ≠ '&') : IsRun [c] [c] :=
  literal (by simpa using Ne.symm hc.1) (by simpa using Ne.symm hc.2)

/-- A reference stands for its character, or for itself if it is not known. -/
theorem reference {name : List Char} (hname : ∀ c ∈ name, c ≠ ';' ∧ c ≠ '<' ∧ c ≠ '&') :
    IsRun ('&' :: (name ++ [';'])) (referenceText name) where
  bracket := by
    simp only [List.mem_cons, List.mem_append, List.not_mem_nil, or_false, not_or]
    exact ⟨by decide, fun hmem => (hname _ hmem).2.1 rfl, by decide⟩
  unescape more := by
    have hsemicolon : ';' ∉ name := fun hmem => (hname _ hmem).1 rfl
    have hamp : '&' ∉ name ++ [';'] := by
      rw [List.mem_append, not_or]
      exact ⟨fun hmem => (hname _ hmem).2.2 rfl, by decide⟩
    simp only [Xml.unescape, List.cons_append, List.append_assoc, List.nil_append, referenceText]
    cases hentity : entity? name with
    | some c => exact unescapeFrom_entity hsemicolon hentity more
    | none =>
        rw [unescapeFrom_unknown hsemicolon hentity]
        exact congrArg _ (by simpa using unescapeFrom_append_of_not_mem hamp more)

end IsRun

namespace ReadsContent

variable {name text : List Char} {c : Content}

/-- A closing tag ends the content. -/
theorem close {gap : List Char} (hname : IsTagName name) (hgap : IsGap gap) :
    ReadsContent name ('<' :: '/' :: (name ++ (gap ++ ['>']))) { elements := [], text := [] } := by
  intro fuel rest hfuel
  obtain ⟨fuel, rfl⟩ : ∃ f, fuel = f + 1 := ⟨fuel - 1, by simp at hfuel; omega⟩
  simpa using @readContent_end fuel name gap hname hgap rest

/-- A run is put in front of the text. -/
theorem run {more means : List Char} (h : ReadsContent name ('<' :: text) c)
    (hrun : IsRun more means) :
    ReadsContent name (more ++ '<' :: text) { c with text := means ++ c.text } := by
  by_cases hne : more = []
  · obtain rfl : means = [] := by
      rw [← hrun.unescape_eq, hne]
      rfl
    subst hne
    exact h
  · intro fuel rest hfuel
    have hpos := List.length_pos_iff.mpr hne
    simp only [List.length_append, List.length_cons] at hfuel
    obtain ⟨fuel, rfl⟩ : ∃ f, fuel = f + 1 := ⟨fuel - 1, by omega⟩
    have hread : readContent fuel name ('<' :: (text ++ rest)) = .ok (c, rest) :=
      h fuel rest (by simp only [List.length_cons]; omega)
    rw [List.append_assoc, List.cons_append, readContent_text hne hrun.bracket, hread,
      hrun.unescape_eq]
    rfl

/-- What one step reads is put in front of what is behind it. -/
theorem of_step {whole : List Char} {f : Content → Content} (h : ReadsContent name text c)
    (hlength : text.length < whole.length)
    (hstep : ∀ fuel rest last, readContent fuel name (text ++ rest) = .ok (c, last) →
      readContent (fuel + 1) name (whole ++ rest) = .ok (f c, last)) :
    ReadsContent name whole (f c) := by
  intro fuel rest hfuel
  obtain ⟨fuel, rfl⟩ : ∃ f, fuel = f + 1 := ⟨fuel - 1, by omega⟩
  exact hstep fuel rest rest (h fuel rest (by omega))

/-- What is cut off at the start of a comment is skipped. -/
theorem of_cutBehind {body behind skipped : List Char} (h : ReadsContent name behind c)
    (hlength : behind.length < (commentText body ++ text).length)
    (hcut : ∀ rest, cutBehind "-->" (commentText body ++ (text ++ rest)) =
      .ok (skipped, behind ++ rest)) : ReadsContent name (commentText body ++ text) c := by
  refine h.of_step (f := id) hlength fun fuel rest last hread => ?_
  have hstart : "<!--".toList.isPrefixOf (commentText body ++ (text ++ rest)) = true := by
    simp [commentText, List.isPrefixOf]
  rw [List.append_assoc, readContent, if_neg (by simp [commentText]),
    if_neg (by simp [commentText, List.isPrefixOf]), if_pos hstart, hcut]
  exact hread

/-- A comment that is not cut short is skipped. -/
theorem comment {body : List Char} (h : ReadsContent name text c) (hbody : IsComment body)
    (hcut : ¬ CutsShort body) : ReadsContent name (commentText body ++ text) c :=
  h.of_cutBehind (by simp [commentText]; omega) fun rest =>
    cutBehind_comment hbody hcut (text ++ rest)

/-- A comment that is cut short is read as the rest of it, behind the bracket that is taken for its
end. -/
theorem comment_opening {opening more : List Char}
    (h : ReadsContent name (more ++ (['-', '-', '>'] ++ text)) c)
    (hopening : opening = [] ∨ opening = ['-']) :
    ReadsContent name (commentText (opening ++ '>' :: more) ++ text) c := by
  have hlength : (more ++ (['-', '-', '>'] ++ text)).length <
      (commentText (opening ++ '>' :: more) ++ text).length := by
    simp [commentText]
    omega
  exact h.of_cutBehind hlength fun rest => by
    rw [cutBehind_opening hopening, List.append_assoc, List.append_assoc]

/-- An instruction is skipped. -/
theorem instruction {body : List Char} (h : ReadsContent name text c)
    (hbody : IsInstruction body) : ReadsContent name (instructionText body ++ text) c := by
  refine h.of_step (f := id) (by simp [instructionText]; omega) fun fuel rest last hread => ?_
  have hstart : "<?".toList.isPrefixOf (instructionText body ++ (text ++ rest)) = true := by
    simp [instructionText, List.isPrefixOf]
  rw [List.append_assoc, readContent, if_neg (by simp [instructionText]),
    if_neg (by simp [instructionText, List.isPrefixOf]),
    if_neg (by simp [instructionText, List.isPrefixOf]),
    if_neg (by simp [instructionText, List.isPrefixOf]), if_pos hstart, cutBehind_instruction hbody]
  exact hread

/-- Literal text is put in front of the text. -/
theorem data {literal : List Char} (h : ReadsContent name text c)
    (hliteral : ¬ [']', ']', '>'] <:+: literal) :
    ReadsContent name (dataText literal ++ text) { c with text := literal ++ c.text } := by
  refine h.of_step (f := fun c => { c with text := literal ++ c.text }) (by simp [dataText]; omega)
    fun fuel rest last hread => ?_
  have hstart : "<![CDATA[".toList.isPrefixOf (dataText literal ++ (text ++ rest)) = true := by
    simp [dataText, List.isPrefixOf]
  have hskip : cutBehind "]]>" ((dataText literal ++ (text ++ rest)).drop 9) =
      .ok (literal, text ++ rest) := by
    simpa [dataText] using @cutBehind_append "]]>" [']', ']', '>'] _ rfl (by simp)
      (delimits_data hliteral) (text ++ rest)
  rw [List.append_assoc, readContent, if_neg (by simp [dataText]),
    if_neg (by simp [dataText, List.isPrefixOf]), if_neg (by simp [dataText, List.isPrefixOf]),
    if_pos hstart, hskip]
  simp only [hread, Except.map]

/-- An element is put in front of the elements. -/
theorem element {cs : List Char} {e : String × Value} (h : ReadsContent name text c)
    (he : ReadsElement cs e) :
    ReadsContent name ('<' :: cs ++ text) { c with elements := e :: c.elements } := by
  intro fuel rest hfuel
  simp only [List.cons_append, List.length_cons, List.length_append] at hfuel
  obtain ⟨fuel, rfl⟩ : ∃ f, fuel = f + 1 := ⟨fuel - 1, by omega⟩
  have hreads := he.reads fuel (text ++ rest) (by omega)
  obtain ⟨d, cs, rfl, hd⟩ := he.first
  simp only [List.cons_append, List.append_assoc] at hreads ⊢
  rw [readContent_element hd hreads, h fuel rest (by omega)]
  rfl

end ReadsContent

/-! ### Elements -/

/-- A piece that is an element is read as what it adds to a content. -/
def Node.IsReadBack (n : Node) : Prop :=
  ∃ cs e, n.text = '<' :: cs ∧ ReadsElement cs e ∧ e.2 = n.value ∧
    ∀ k, n.addTo k = { k with elements := e :: k.elements }

/-- An element of one tag is null. -/
theorem Tag.WellFormed.readsElement_closed {t : Tag} (ht : t.WellFormed) :
    ReadsElement (t.text ++ ['/', '>']) (String.ofList t.name, .null) := by
  rw [Tag.text, List.append_assoc]
  refine .of_tag ht.name (fun rest => ?_) fun rest => ?_ <;>
    simp only [List.append_assoc, List.cons_append, List.nil_append]
  · exact ht.stops (Text.stops_cons.mpr (by decide))
  · exact ht.skipAttributes_closed rest

/-- An element with content has the value of the content. -/
theorem Tag.WellFormed.readsElement_of_content {t : Tag} (ht : t.WellFormed) {text : List Char}
    {c : Content} (h : ReadsContent t.name text c) :
    ReadsElement (t.text ++ '>' :: text) (String.ofList t.name, c.value) := by
  have hsplit : t.text ++ '>' :: text =
      t.name ++ (t.attributes.flatMap Attribute.text ++ t.gap ++ ['>'] ++ text) := by
    simp [Tag.text]
  rw [hsplit]
  refine .of_tags ht.name (fun rest => ?_) (fun rest => ?_)
    fun fuel rest hfuel => ⟨c, h fuel rest hfuel, rfl⟩ <;>
    simp only [List.append_assoc, List.cons_append, List.nil_append]
  · exact ht.stops (Text.stops_cons.mpr (by decide))
  · exact ht.skipAttributes_open rest

/-- **The pieces of a content are read as what they stand for**, behind a run of text that has not
been read yet. The induction is on the pieces: text is added to the run, and markup ends it. -/
theorem readsContent_texts {name close run means : List Char} {ns : List Node}
    (hns : ∀ n ∈ ns, n.WellFormed) (hcut : ∀ n ∈ ns, ∀ body ∈ n.comments, ¬ CutsShort body)
    (hback : ∀ n ∈ ns, n.isElement = true → n.IsReadBack)
    (hclose : ReadsContent name ('<' :: close) { elements := [], text := [] })
    (hrun : IsRun run means) :
    ReadsContent name (run ++ (Node.texts ns ++ '<' :: close))
      { Node.content ns with text := means ++ (Node.content ns).text } := by
  induction ns generalizing run means with
  | nil => exact hclose.run hrun
  | cons n ns ih =>
      rw [List.forall_mem_cons] at hns hcut hback
      have ih : ∀ {run means}, IsRun run means →
          ReadsContent name (run ++ (Node.texts ns ++ '<' :: close))
            { Node.content ns with text := means ++ (Node.content ns).text } :=
        ih hns.2 hcut.2 hback.2
      have hrest : ReadsContent name (Node.texts ns ++ '<' :: close) (Node.content ns) := ih .nil
      have hmarkup : ∀ cs, n.text = '<' :: cs →
          ReadsContent name (n.text ++ (Node.texts ns ++ '<' :: close))
            (n.addTo (Node.content ns)) →
          ReadsContent name (run ++ (Node.texts (n :: ns) ++ '<' :: close))
            { Node.content (n :: ns) with text := means ++ (Node.content (n :: ns)).text } := by
        intro cs htext h
        rw [htext, List.cons_append] at h
        rw [Node.texts, Node.content, htext, List.append_assoc, List.cons_append]
        exact h.run hrun
      have helement : n.isElement = true →
          ReadsContent name (run ++ (Node.texts (n :: ns) ++ '<' :: close))
            { Node.content (n :: ns) with text := means ++ (Node.content (n :: ns)).text } := by
        intro hn
        obtain ⟨cs, e, htext, hreads, -, hadd⟩ := hback.1 hn
        refine hmarkup cs htext ?_
        rw [htext, hadd]
        exact hrest.element hreads
      have hn := hns.1
      cases n with
      | char c =>
          simp only [Node.WellFormed] at hn
          have h := ih (hrun.append (.char hn))
          simpa [Node.texts, Node.text, Node.content, Node.addTo] using h
      | reference name =>
          simp only [Node.WellFormed] at hn
          have h := ih (hrun.append (.reference hn))
          simpa [Node.texts, Node.text, Node.content, Node.addTo] using h
      | data text =>
          simp only [Node.WellFormed] at hn
          exact hmarkup _ rfl (hrest.data hn)
      | instruction body =>
          simp only [Node.WellFormed] at hn
          exact hmarkup _ rfl (hrest.instruction hn)
      | comment body =>
          simp only [Node.WellFormed] at hn
          exact hmarkup _ rfl (hrest.comment hn (hcut.1 body (by simp [Node.comments])))
      | closed tag => exact helement rfl
      | element tag content gap => exact helement rfl

/-- **Every element is read as what it stands for**, if no comment in it is cut short. -/
theorem Node.isReadBack (n : Node) (hn : n.WellFormed)
    (hcut : ∀ body ∈ n.comments, ¬ CutsShort body) (helement : n.isElement = true) :
    n.IsReadBack := by
  induction n using Node.induct with
  | closed tag =>
      simp only [Node.WellFormed] at hn
      exact ⟨_, _, rfl, hn.readsElement_closed, rfl, fun _ => rfl⟩
  | element tag content gap ih =>
      simp only [Node.WellFormed, allWellFormed_iff] at hn
      obtain ⟨htag, hcontent, hgap⟩ := hn
      have hcut : ∀ n ∈ content, ∀ body ∈ n.comments, ¬ CutsShort body := fun n hn body hbody =>
        hcut body (by rw [Node.comments, mem_allComments_iff]; exact ⟨n, hn, hbody⟩)
      have hread := readsContent_texts hcontent hcut
        (fun n hn => ih n hn (hcontent n hn) (hcut n hn)) (.close htag.name hgap) .nil
      exact ⟨_, _, rfl, htag.readsElement_of_content hread, rfl, fun _ => rfl⟩
  | char | reference | data | instruction | comment => simp [Node.isElement] at helement

/-! ### Documents -/

/-- A blank outside the root is skipped. -/
theorem skipMiscFrom_blank {c : Char} (hc : Text.isBlank c = true) (fuel : Nat) (cs : List Char) :
    skipMiscFrom (fuel + 1) (c :: cs) = skipMiscFrom (fuel + 1) cs := by
  rw [skipMiscFrom, skipMiscFrom, Text.trimStart, List.dropWhile_cons_of_pos hc, Text.trimStart]

/-- Markup outside the root is skipped. -/
theorem skipMiscFrom_cut {terminator : String} {cs skipped behind : List Char}
    (hterminator : miscTerminator? ('<' :: cs) = some terminator)
    (hcut : cutBehind terminator ('<' :: cs) = .ok (skipped, behind)) (fuel : Nat) :
    skipMiscFrom (fuel + 1) ('<' :: cs) = skipMiscFrom fuel behind := by
  have htrim : Text.trimStart ('<' :: cs) = '<' :: cs := rfl
  rw [skipMiscFrom, htrim]
  simp only [hterminator, hcut]

/-- A type definition is told from a comment. -/
theorem miscTerminator?_definition {body : List Char} (hbody : ¬ ['-', '-'] <+: body)
    (rest : List Char) : miscTerminator? ('<' :: '!' :: (body ++ '>' :: rest)) = some ">" := by
  match body with
  | [] => simp [miscTerminator?, List.isPrefixOf]
  | [c] => simp [miscTerminator?, List.isPrefixOf]
  | c :: d :: body =>
      have hmarks : '-' = c → ¬ '-' = d := by simpa using hbody
      simpa [miscTerminator?, List.isPrefixOf] using hmarks

/-- A piece outside the root is skipped, in one step or in the step that skips what is behind it. -/
theorem Misc.WellFormed.skipMiscFrom {m : Misc} (hm : m.WellFormed)
    (hcut : ∀ body ∈ m.comment?, ¬ CutsShort body) (fuel : Nat) (rest : List Char) :
    Xml.skipMiscFrom (fuel + 1) (m.text ++ rest) = Xml.skipMiscFrom (fuel + 1) rest ∨
      Xml.skipMiscFrom (fuel + 1) (m.text ++ rest) = Xml.skipMiscFrom fuel rest := by
  cases m with
  | blank c => exact .inl (skipMiscFrom_blank (IsGap.isBlank hm c (by simp)) fuel rest)
  | instruction body =>
      have hskip := cutBehind_instruction hm rest
      exact .inr (skipMiscFrom_cut (by simp [miscTerminator?, List.isPrefixOf]) hskip fuel)
  | comment body =>
      have hskip := cutBehind_comment hm (hcut body rfl) rest
      exact .inr (skipMiscFrom_cut (by simp [miscTerminator?, List.isPrefixOf]) hskip fuel)
  | definition body =>
      have hskip := @cutBehind_append ">" ['>'] _ rfl (by simp) (delimits_definition hm.1) rest
      have hterminator := miscTerminator?_definition hm.2 rest
      simp only [Misc.text, List.cons_append, List.append_assoc, List.nil_append] at hskip ⊢
      exact .inr (skipMiscFrom_cut hterminator hskip fuel)

/-- **The pieces outside the root are skipped**, if no comment among them is cut short. The
induction is on the pieces; each of them has a character for the step it takes. -/
theorem skipMiscFrom_texts {ms : List Misc} (hms : ∀ m ∈ ms, m.WellFormed)
    (hcut : ∀ m ∈ ms, ∀ body ∈ m.comment?, ¬ CutsShort body) {rest : List Char}
    (hrest : rest = [] ∨ ∃ c cs, rest = '<' :: c :: cs ∧ isNameChar c = true) {fuel : Nat}
    (hfuel : (ms.flatMap Misc.text).length ≤ fuel) :
    skipMiscFrom (fuel + 1) (ms.flatMap Misc.text ++ rest) = .ok rest := by
  induction ms generalizing fuel with
  | nil => exact @skipMiscFrom_gap [] rest (by simp) hrest fuel
  | cons m ms ih =>
      rw [List.forall_mem_cons] at hms hcut
      rw [List.flatMap_cons, List.length_append] at hfuel
      rw [List.flatMap_cons, List.append_assoc]
      have hpos : 0 < m.text.length := by cases m <;> simp [Misc.text, instructionText, commentText]
      obtain ⟨fuel, rfl⟩ : ∃ f, fuel = f + 1 := ⟨fuel - 1, by omega⟩
      rcases hms.1.skipMiscFrom hcut.1 (fuel + 1) (ms.flatMap Misc.text ++ rest) with h | h
      · exact h.trans (ih hms.2 hcut.2 (by omega))
      · exact h.trans (ih hms.2 hcut.2 (by omega))

/-- The pieces in front of the root and behind it are skipped. -/
theorem skipMisc_texts {ms : List Misc} (hms : ∀ m ∈ ms, m.WellFormed)
    (hcut : ∀ m ∈ ms, ∀ body ∈ m.comment?, ¬ CutsShort body) {rest : List Char}
    (hrest : rest = [] ∨ ∃ c cs, rest = '<' :: c :: cs ∧ isNameChar c = true) :
    skipMisc (ms.flatMap Misc.text ++ rest) = .ok rest :=
  skipMiscFrom_texts hms hcut hrest (by simp)

/-- The root of a document is read, and nothing is behind it. -/
theorem readRoots_single {cs behind : List Char} {element : String × Value}
    (hroot : ReadsElement cs element) (hbehind : skipMisc behind = .ok []) (fuel : Nat) :
    readRoots (fuel + 1) ('<' :: (cs ++ behind)) = .ok ([element], []) := by
  have hread := hroot.reads (2 * (cs ++ behind).length + 2) behind (by simp; omega)
  have hnone : readRoots fuel [] = .ok ([], []) := by cases fuel <;> rfl
  rw [readRoots, if_neg (by simp), hread]
  simp only [hbehind, hnone, Except.map]

/-- A document is read as its root, whatever is skipped in front of it and behind it. -/
theorem decode_root {front back : List Misc} (hfront : ∀ m ∈ front, m.WellFormed)
    (hback : ∀ m ∈ back, m.WellFormed)
    (hcut : ∀ m ∈ front ++ back, ∀ body ∈ m.comment?, ¬ CutsShort body)
    {cs : List Char} {element : String × Value} (hroot : ReadsElement cs element) :
    decode (String.ofList (front.flatMap Misc.text ++ ('<' :: cs ++ back.flatMap Misc.text))) =
      .ok element.2 := by
  rw [List.forall_mem_append] at hcut
  have hbehind : skipMisc (back.flatMap Misc.text) = .ok [] := by
    have h := skipMisc_texts hback hcut.2 (.inl rfl)
    rwa [List.append_nil] at h
  have hstart : skipMisc (front.flatMap Misc.text ++ ('<' :: cs ++ back.flatMap Misc.text)) =
      .ok ('<' :: cs ++ back.flatMap Misc.text) := by
    obtain ⟨c, cs', rfl, hc⟩ := hroot.first
    exact skipMisc_texts hfront hcut.1 (.inr ⟨c, cs' ++ back.flatMap Misc.text, rfl, hc⟩)
  have hread : readDocument (front.flatMap Misc.text ++ ('<' :: cs ++ back.flatMap Misc.text)) =
      .ok element.2 := by
    rw [readDocument, hstart]
    simp only [bind, Except.bind, List.cons_append, readRoots_single hroot hbehind, pure,
      Except.pure]
  rw [decode, String.toList_ofList, hread]
  rfl

/-- **A well-formed document is read as what it means**, if no comment in it is cut short. -/
theorem decode_text {d : Document} (hd : d.WellFormed)
    (hcut : ∀ body ∈ d.comments, ¬ CutsShort body) : decode d.text = .ok d.value := by
  simp only [Document.comments, List.mem_append, List.mem_filterMap] at hcut
  obtain ⟨cs, element, htext, hroot, hvalue, -⟩ :=
    d.root.isReadBack hd.root (fun body hbody => hcut body (.inr (.inl hbody))) hd.isElement_root
  rw [Document.text, htext, Document.value, ← hvalue]
  refine decode_root hd.front hd.back (fun m hm body hbody => hcut body ?_) hroot
  exact (List.mem_append.mp hm).imp (fun hm => ⟨m, hm, hbody⟩) fun hm => .inr ⟨m, hm, hbody⟩

/-- **Comments and attributes make no difference to what is read**, if no comment is cut short: of
two documents that are the same without them, both are read as the same value. -/
theorem decode_eq_of_stripped_eq {d e : Document} (hd : d.WellFormed) (he : e.WellFormed)
    (hcut : ∀ body ∈ d.comments ++ e.comments, ¬ CutsShort body) (h : d.stripped = e.stripped) :
    ∃ v, decode d.text = .ok v ∧ decode e.text = .ok v := by
  rw [List.forall_mem_append] at hcut
  refine ⟨d.value, decode_text hd hcut.1, ?_⟩
  rw [decode_text he hcut.2, ← e.value_stripped, ← h, d.value_stripped]

/-- A start tag of a name alone. -/
def plainTag (name : String) : Tag := { name := name.toList, attributes := [], gap := [] }

/-- Marks of every kind in comments and attributes. -/
def annotated : Document where
  front := [.instruction "xml version='1.0'".toList, .blank ' ', .comment " a -> 'b' ".toList]
  root := .element
    { plainTag "a" with
      attributes := [
        { gap := [' '], name := ['x'], mark := '"', value := "1 > '2'/".toList },
        { gap := ['\n', ' '], name := ['y', ':', 'z'], mark := '\'', value := "/>\"<b>".toList }] }
    [.comment [],
      .element (plainTag "n") [.char '1', .comment "</n> - ".toList, .reference "lt".toList,
        .data "<!-->".toList] [],
      .closed { plainTag "m" with
        attributes := [{ gap := [' '], name := ['x'], mark := '\'', value := ['/'] }] }] []
  back := [.comment " > ".toList]

/-- The same document without the comments and attributes. -/
def unannotated : Document where
  front := [.instruction "xml version='1.0'".toList, .blank ' ']
  root := .element (plainTag "a")
    [.element (plainTag "n") [.char '1', .reference "lt".toList, .data "<!-->".toList] [],
      .closed (plainTag "m")] []
  back := []

/-- Both are read as the same object. -/
theorem decode_eq_of_stripped_eq_annotated :
    annotated.WellFormed ∧ unannotated.WellFormed ∧
      (∀ body ∈ annotated.comments ++ unannotated.comments, ¬ CutsShort body) ∧
      annotated.stripped = unannotated.stripped ∧
      unannotated.text = "<?xml version='1.0'?> <a><n>1&lt;<![CDATA[<!-->]]></n><m/></a>" ∧
      ∃ v, decode annotated.text = .ok v ∧ decode unannotated.text = .ok v := by
  have hd : annotated.WellFormed := by decide
  have he : unannotated.WellFormed := by decide
  have hcut : ∀ body ∈ annotated.comments ++ unannotated.comments, ¬ CutsShort body := by decide
  exact ⟨hd, he, hcut, rfl, rfl, decode_eq_of_stripped_eq hd he hcut rfl⟩

/-- A comment that is cut short in front of a number. -/
def shortened : Document where
  front := []
  root := .element (plainTag "a") [.comment ">x".toList, .char '1'] []
  back := []

/-- The number alone. -/
def uncommented : Document where
  front := []
  root := .element (plainTag "a") [.char '1'] []
  back := []

/-- A comment that is cut short is read as text, where without it there is a number. -/
theorem not_forall_decode_eq :
    ¬ ∀ d e : Document, d.WellFormed → e.WellFormed → d.stripped = e.stripped →
      decode d.text = decode e.text := by
  intro h
  have hread : ReadsContent ['a'] (commentText ['>', 'x'] ++ "1</a>".toList)
      { elements := [], text := "x-->1".toList } := by
    have hclose : ReadsContent ['a'] "</a>".toList { elements := [], text := [] } :=
      @ReadsContent.close ['a'] [] (by decide) (by decide)
    have hrun : IsRun "x-->1".toList "x-->1".toList := .literal (by decide) (by decide)
    exact .comment_opening (hclose.run hrun) (.inl rfl)
  have htag : (plainTag "a").WellFormed := by decide
  have hshort : decode shortened.text = .ok (.string "x-->1") :=
    @decode_root [] [] (by simp) (by simp) (by simp) _ _ (htag.readsElement_of_content hread)
  have hnumber : decode uncommented.text = .ok (.int 1) := decode_text (by decide) (by decide)
  have heq := h shortened uncommented (by decide) (by decide) rfl
  rw [hshort, hnumber] at heq
  simp [Value.int] at heq

end JsonWorkbench.Xml
