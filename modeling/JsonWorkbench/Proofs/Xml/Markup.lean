import JsonWorkbench.Proofs.Xml.Element

/-!
# Element Documents as Trees

An element document, with all that is in it and means nothing: the attributes and blanks in its
tags, the comments and instructions between any two of its pieces. Text is a sequence of characters
and references, so that a comment can stand between any two characters, but not in a reference.

What the document means is told by the tree alone. What is left of it without its comments and
attributes means the same.

## Main definitions

* `Tag`, `Node`, `Misc`, `Document` — the trees, and their texts.
* `Node.content`, `Document.value` — what they mean.
* `Document.stripped` — a document without comments and attributes.
* `Document.WellFormed` — the documents in which every piece is what it is taken for.

## Main results

* `Document.value_stripped` — a document means the same without comments and attributes.
-/

namespace JsonWorkbench.Xml

/-! ### Trees -/

/-- An attribute in a start tag, behind blanks. -/
structure Attribute where
  /-- The blanks in front. -/
  gap : List Char
  /-- The name. -/
  name : List Char
  /-- The quotation mark around the value. -/
  mark : Char
  /-- The value. -/
  value : List Char

/-- A start tag. -/
structure Tag where
  /-- The name of the element. -/
  name : List Char
  /-- The attributes. -/
  attributes : List Attribute
  /-- The blanks at the end. -/
  gap : List Char

/-- A piece of the content of an element. -/
inductive Node where
  /-- A character of text. -/
  | char (c : Char)
  /-- A reference to an entity or a character. -/
  | reference (name : List Char)
  /-- Text that is taken literally. -/
  | data (text : List Char)
  /-- A processing instruction. -/
  | instruction (body : List Char)
  /-- A comment. -/
  | comment (body : List Char)
  /-- An element without content, of one tag. -/
  | closed (tag : Tag)
  /-- An element with two tags; `gap` are the blanks in the second. -/
  | element (tag : Tag) (content : List Node) (gap : List Char)

/-- A piece in front of the root or behind it. -/
inductive Misc where
  /-- A blank. -/
  | blank (c : Char)
  /-- A declaration or a processing instruction. -/
  | instruction (body : List Char)
  /-- A comment. -/
  | comment (body : List Char)
  /-- A type definition. -/
  | definition (body : List Char)

/-- A document. -/
structure Document where
  /-- What stands in front of the root. -/
  front : List Misc
  /-- The root. -/
  root : Node
  /-- What stands behind the root. -/
  back : List Misc

/-! ### Texts -/

/-- The text of an attribute. -/
def Attribute.text (a : Attribute) : List Char :=
  a.gap ++ (a.name ++ '=' :: a.mark :: (a.value ++ [a.mark]))

/-- The text of a start tag, without its brackets and slash. -/
def Tag.text (t : Tag) : List Char := t.name ++ (t.attributes.flatMap Attribute.text ++ t.gap)

/-- The text of a comment. -/
def commentText (body : List Char) : List Char :=
  '<' :: '!' :: '-' :: '-' :: (body ++ ['-', '-', '>'])

/-- The text of literal text. -/
def dataText (text : List Char) : List Char :=
  ['<', '!', '[', 'C', 'D', 'A', 'T', 'A', '['] ++ (text ++ [']', ']', '>'])

/-- The text of an instruction. -/
def instructionText (body : List Char) : List Char := '<' :: '?' :: (body ++ ['?', '>'])

mutual

/-- The text of a piece. -/
def Node.text : Node → List Char
  | .char c => [c]
  | .reference name => '&' :: (name ++ [';'])
  | .data text => dataText text
  | .instruction body => instructionText body
  | .comment body => commentText body
  | .closed tag => '<' :: (tag.text ++ ['/', '>'])
  | .element tag content gap =>
    '<' :: (tag.text ++ '>' :: (Node.texts content ++ '<' :: '/' :: (tag.name ++ (gap ++ ['>']))))

/-- The text of pieces one behind another. -/
def Node.texts : List Node → List Char
  | [] => []
  | n :: ns => n.text ++ Node.texts ns

end

/-- The text of a piece outside the root. -/
def Misc.text : Misc → List Char
  | .blank c => [c]
  | .instruction body => instructionText body
  | .comment body => commentText body
  | .definition body => '<' :: '!' :: (body ++ ['>'])

/-- The text of a document. -/
def Document.text (d : Document) : String :=
  String.ofList (d.front.flatMap Misc.text ++ (d.root.text ++ d.back.flatMap Misc.text))

/-! ### Meaning -/

/-- What a reference stands for; one that is not known stands for itself. -/
def referenceText (name : List Char) : List Char :=
  match entity? name with
  | some c => [c]
  | none => '&' :: (name ++ [';'])

mutual

/-- A content with a piece in front. -/
def Node.addTo : Node → Content → Content
  | .char c, k => { k with text := c :: k.text }
  | .reference name, k => { k with text := referenceText name ++ k.text }
  | .data text, k => { k with text := text ++ k.text }
  | .instruction _, k => k
  | .comment _, k => k
  | .closed tag, k => { k with elements := (String.ofList tag.name, .null) :: k.elements }
  | .element tag content _, k =>
    { k with elements := (String.ofList tag.name, (Node.content content).value) :: k.elements }

/-- What pieces one behind another stand for. -/
def Node.content : List Node → Content
  | [] => { elements := [], text := [] }
  | n :: ns => n.addTo (Node.content ns)

end

/-- The value of an element. -/
def Node.value : Node → Value
  | .element _ content _ => (Node.content content).value
  | _ => .null

/-- The value of a document. -/
def Document.value (d : Document) : Value := d.root.value

/-! ### Comments and attributes -/

/-- A start tag without its attributes. -/
def Tag.bare (t : Tag) : Tag := { t with attributes := [] }

mutual

/-- A piece without the comments and attributes in it. -/
def Node.stripped : Node → Node
  | .closed tag => .closed tag.bare
  | .element tag content gap => .element tag.bare (Node.strippedAll content) gap
  | n => n

/-- Pieces without comments and attributes. -/
def Node.strippedAll : List Node → List Node
  | [] => []
  | .comment _ :: ns => Node.strippedAll ns
  | n :: ns => n.stripped :: Node.strippedAll ns

end

/-- Pieces outside the root without comments. -/
def Misc.strippedAll (ms : List Misc) : List Misc :=
  ms.filter fun
    | .comment _ => false
    | _ => true

/-- A document without comments and attributes. -/
def Document.stripped (d : Document) : Document where
  front := Misc.strippedAll d.front
  root := d.root.stripped
  back := Misc.strippedAll d.back

mutual

/-- The bodies of the comments in a piece. -/
def Node.comments : Node → List (List Char)
  | .comment body => [body]
  | .element _ content _ => Node.allComments content
  | _ => []

/-- The bodies of the comments in some pieces. -/
def Node.allComments : List Node → List (List Char)
  | [] => []
  | n :: ns => n.comments ++ Node.allComments ns

end

/-- The body of a comment outside the root. -/
def Misc.comment? : Misc → Option (List Char)
  | .comment body => some body
  | _ => none

/-- The bodies of the comments in a document. -/
def Document.comments (d : Document) : List (List Char) :=
  d.front.filterMap Misc.comment? ++ (d.root.comments ++ d.back.filterMap Misc.comment?)

/-! ### Well-formed documents -/

/-- A character that can stand in the name of an attribute. -/
def isAttributeChar (c : Char) : Bool :=
  decide (c ∉ ['"', '\'', '<', '>', '/', '=', ' ', '\t', '\n', '\r'])

/-- An attribute is a name and a quoted value, which is free of its quotation mark. -/
structure Attribute.WellFormed (a : Attribute) : Prop where
  gap : IsGap a.gap
  gap_ne_nil : a.gap ≠ []
  name : ∀ c ∈ a.name, isAttributeChar c = true
  name_ne_nil : a.name ≠ []
  mark : a.mark = '"' ∨ a.mark = '\''
  value : a.mark ∉ a.value

/-- A start tag is a name and attributes. -/
structure Tag.WellFormed (t : Tag) : Prop where
  name : IsTagName t.name
  attributes : ∀ a ∈ t.attributes, a.WellFormed
  gap : IsGap t.gap

/-- The body of a comment has no two hyphens one behind the other and does not end in one. -/
def IsComment (body : List Char) : Prop := ¬ ['-', '-'] <:+: body ∧ body.getLast? ≠ some '-'

/-- The body of an instruction does not have its end in it; its target does not begin with a
bracket. -/
def IsInstruction (body : List Char) : Prop := ¬ ['?', '>'] <:+: body ∧ body.head? ≠ some '>'

mutual

/-- A piece is what it is taken for. -/
def Node.WellFormed : Node → Prop
  | .char c => c ≠ '<' ∧ c ≠ '&'
  | .reference name => ∀ c ∈ name, c ≠ ';' ∧ c ≠ '<' ∧ c ≠ '&'
  | .data text => ¬ [']', ']', '>'] <:+: text
  | .instruction body => IsInstruction body
  | .comment body => IsComment body
  | .closed tag => tag.WellFormed
  | .element tag content gap => tag.WellFormed ∧ Node.AllWellFormed content ∧ IsGap gap

/-- Pieces are what they are taken for. -/
def Node.AllWellFormed : List Node → Prop
  | [] => True
  | n :: ns => n.WellFormed ∧ Node.AllWellFormed ns

end

/-- A piece outside the root is what it is taken for. -/
def Misc.WellFormed : Misc → Prop
  | .blank c => IsGap [c]
  | .instruction body => IsInstruction body
  | .comment body => IsComment body
  | .definition body => '>' ∉ body ∧ ¬ ['-', '-'] <+: body

/-- Whether a piece is an element. -/
def Node.isElement : Node → Bool
  | .closed _ | .element _ _ _ => true
  | _ => false

/-- The root of a document is an element, and every piece is what it is taken for. -/
structure Document.WellFormed (d : Document) : Prop where
  front : ∀ m ∈ d.front, m.WellFormed
  root : d.root.WellFormed
  isElement_root : d.root.isElement = true
  back : ∀ m ∈ d.back, m.WellFormed

/-! ### Deciding well-formedness -/

section Decidable

-- The characters of a text are tested one by one: there are finitely many characters, and a test of
-- all of them would be found as well, but never come to an end.
instance (cs : List Char) : Decidable (IsGap cs) := List.decidableBAll _ cs

instance (cs : List Char) : Decidable (IsTagName cs) :=
  have := List.decidableBAll (isNameChar · = true) cs
  inferInstanceAs (Decidable (_ ∧ _))

instance (body : List Char) : Decidable (IsComment body) := inferInstanceAs (Decidable (_ ∧ _))

instance (body : List Char) : Decidable (IsInstruction body) := inferInstanceAs (Decidable (_ ∧ _))

instance (a : Attribute) : Decidable a.WellFormed :=
  have := List.decidableBAll (isAttributeChar · = true) a.name
  decidable_of_iff
    (IsGap a.gap ∧ a.gap ≠ [] ∧ (∀ c ∈ a.name, isAttributeChar c = true) ∧ a.name ≠ [] ∧
      (a.mark = '"' ∨ a.mark = '\'') ∧ a.mark ∉ a.value)
    ⟨fun ⟨h₁, h₂, h₃, h₄, h₅, h₆⟩ => ⟨h₁, h₂, h₃, h₄, h₅, h₆⟩,
      fun ⟨h₁, h₂, h₃, h₄, h₅, h₆⟩ => ⟨h₁, h₂, h₃, h₄, h₅, h₆⟩⟩

instance (t : Tag) : Decidable t.WellFormed :=
  decidable_of_iff (IsTagName t.name ∧ (∀ a ∈ t.attributes, a.WellFormed) ∧ IsGap t.gap)
    ⟨fun ⟨h₁, h₂, h₃⟩ => ⟨h₁, h₂, h₃⟩, fun ⟨h₁, h₂, h₃⟩ => ⟨h₁, h₂, h₃⟩⟩

mutual

/-- Whether a piece is what it is taken for. -/
def Node.decideWellFormed : (n : Node) → Decidable n.WellFormed
  | .char c => inferInstanceAs (Decidable (c ≠ '<' ∧ c ≠ '&'))
  | .reference name => List.decidableBAll (fun c => c ≠ ';' ∧ c ≠ '<' ∧ c ≠ '&') name
  | .data text => inferInstanceAs (Decidable (¬ [']', ']', '>'] <:+: text))
  | .instruction body => inferInstanceAs (Decidable (IsInstruction body))
  | .comment body => inferInstanceAs (Decidable (IsComment body))
  | .closed tag => inferInstanceAs (Decidable tag.WellFormed)
  | .element tag content gap =>
    have := Node.decideAllWellFormed content
    inferInstanceAs (Decidable (tag.WellFormed ∧ Node.AllWellFormed content ∧ IsGap gap))

/-- Whether pieces are what they are taken for. -/
def Node.decideAllWellFormed : (ns : List Node) → Decidable (Node.AllWellFormed ns)
  | [] => .isTrue trivial
  | n :: ns =>
    have := n.decideWellFormed
    have := Node.decideAllWellFormed ns
    inferInstanceAs (Decidable (n.WellFormed ∧ Node.AllWellFormed ns))

end

instance (n : Node) : Decidable n.WellFormed := n.decideWellFormed

instance : (m : Misc) → Decidable m.WellFormed
  | .blank c => inferInstanceAs (Decidable (IsGap [c]))
  | .instruction body => inferInstanceAs (Decidable (IsInstruction body))
  | .comment body => inferInstanceAs (Decidable (IsComment body))
  | .definition body => inferInstanceAs (Decidable ('>' ∉ body ∧ ¬ ['-', '-'] <+: body))

instance (d : Document) : Decidable d.WellFormed :=
  decidable_of_iff
    ((∀ m ∈ d.front, m.WellFormed) ∧ d.root.WellFormed ∧ d.root.isElement = true ∧
      ∀ m ∈ d.back, m.WellFormed)
    ⟨fun ⟨h₁, h₂, h₃, h₄⟩ => ⟨h₁, h₂, h₃, h₄⟩, fun ⟨h₁, h₂, h₃, h₄⟩ => ⟨h₁, h₂, h₃, h₄⟩⟩

end Decidable

/-! ### What is left without comments and attributes -/

namespace Node

/-- **Induction on pieces**: an element inherits a property from the pieces of its content. -/
@[elab_as_elim]
theorem induct {motive : Node → Prop} (char : ∀ c, motive (.char c))
    (reference : ∀ name, motive (.reference name)) (data : ∀ text, motive (.data text))
    (instruction : ∀ body, motive (.instruction body)) (comment : ∀ body, motive (.comment body))
    (closed : ∀ tag, motive (.closed tag))
    (element : ∀ tag content gap, (∀ n ∈ content, motive n) → motive (.element tag content gap))
    (n : Node) : motive n :=
  @Node.rec motive (fun ns => ∀ n ∈ ns, motive n) char reference data instruction comment closed
    element (by simp) (fun _ _ ihn ihns => List.forall_mem_cons.mpr ⟨ihn, ihns⟩) n

/-- What pieces stand for without comments, each being put in front as it would be with them. -/
theorem content_strippedAll_of {ns : List Node}
    (h : ∀ n ∈ ns, ∀ k, n.stripped.addTo k = n.addTo k) :
    content (strippedAll ns) = content ns := by
  induction ns with
  | nil => rfl
  | cons n ns ih =>
      rw [List.forall_mem_cons] at h
      cases n with
      | comment body => exact ih h.2
      | _ => exact (h.1 _).trans (congrArg _ (ih h.2))

/-- A piece adds the same without comments and attributes in it. -/
@[simp]
theorem addTo_stripped (n : Node) (k : Content) : n.stripped.addTo k = n.addTo k := by
  induction n using Node.induct generalizing k with
  | element tag content gap ih => simp only [stripped, addTo, content_strippedAll_of ih, Tag.bare]
  | _ => rfl

/-- A piece has the same value without comments and attributes in it. -/
@[simp]
theorem value_stripped (n : Node) : n.stripped.value = n.value := by
  cases n with
  | element tag content gap =>
      simp only [stripped, value, content_strippedAll_of fun n _ => addTo_stripped n]
  | _ => rfl

/-- Pieces are well-formed one by one. -/
theorem allWellFormed_iff {ns : List Node} : AllWellFormed ns ↔ ∀ n ∈ ns, n.WellFormed := by
  induction ns with
  | nil => simp [AllWellFormed]
  | cons n ns ih => rw [AllWellFormed, ih, List.forall_mem_cons]

/-- The comments in some pieces are those in each of them. -/
theorem mem_allComments_iff {ns : List Node} {body : List Char} :
    body ∈ allComments ns ↔ ∃ n ∈ ns, body ∈ n.comments := by
  induction ns with
  | nil => simp [allComments]
  | cons n ns ih => simp [allComments, ih]

end Node

/-- **A document means the same without comments and attributes.** -/
@[simp]
theorem Document.value_stripped (d : Document) : d.stripped.value = d.value := d.root.value_stripped

end JsonWorkbench.Xml
