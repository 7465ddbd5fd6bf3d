import JsonWorkbench.Proofs.Yaml.Layout
import JsonWorkbench.Yaml.Event

/-!
# The Events of a Written Value

The grammar is a machine whose state is the goals and the tokens that are left. On the tokens of a
value it emits the events of the value and is left with the goals and tokens around it, whatever
these are.

A sequence in the column of its key has no token at its end. It ends at the next token that begins
no item, so there must be one.

## Main definitions

* `Grammar.Emits` — a run of the grammar with its events.
* `nodeEvents` — the events of a value.

## Main results

* `emitted` — the events that the tokens of a value give.
* `first_of_nodeTokens` — the document that is found in them.
-/

namespace JsonWorkbench.Yaml

/-! ### Runs -/

namespace Grammar

/-- The grammar goes from goals and tokens to others, with the events on the way. -/
inductive Emits (g : Grammar) :
    List Goal → List Token → List NamedEvent → List Goal → List Token → Prop
  /-- No goal is looked at. -/
  | refl (goals : List Goal) (ts : List Token) : Emits g goals ts [] goals ts
  /-- The innermost goal takes a step. -/
  | step {goal : Goal} {goals goals' : List Goal} {ts ts' : List Token} {s : GrammarStep}
      {events : List NamedEvent} (hstep : g.step goal goals ts = .ok s)
      (hrest : Emits g s.goals s.tokens events goals' ts') :
      Emits g (goal :: goals) ts (s.event :: events) goals' ts'

variable {g : Grammar} {goals goals' goals'' : List Goal} {ts ts' ts'' : List Token}
  {events events' : List NamedEvent}

/-- Runs follow one another. -/
theorem Emits.trans (h : Emits g goals ts events goals' ts')
    (h' : Emits g goals' ts' events' goals'' ts'') :
    Emits g goals ts (events ++ events') goals'' ts'' := by
  induction h with
  | refl => exact h'
  | step hstep _ ih => exact .step hstep (ih h')

/-- **A run until all goals are reached** is what the grammar finds. -/
theorem run_of_emits (h : Emits g goals ts events [] ts') {fuel : Nat}
    (hfuel : events.length ≤ fuel) : g.run fuel goals ts = (events, .ok ts') := by
  generalize hdone : ([] : List Goal) = done at h
  induction h generalizing fuel with
  | refl goals ts =>
      subst hdone
      rw [run]
  | step hstep _ ih =>
      rw [List.length_cons] at hfuel
      obtain ⟨fuel, rfl⟩ := Nat.exists_eq_succ_of_ne_zero (by omega : fuel ≠ 0)
      rw [run, hstep]
      simp only [ih (Nat.le_of_succ_le_succ hfuel) hdone]

/-! ### First tokens of nodes -/

/-- The event and the goals of a token that begins a node of its own. -/
def begun : TokenKind → Option (EventKind (List Char) × List Goal)
  | .scalar text plain => some (.scalar text plain, [])
  | .flowSequenceStart => some (.sequenceStart, [.flowItem true])
  | .flowMappingStart => some (.mappingStart, [.flowKey true])
  | .blockSequenceStart => some (.sequenceStart, [.item])
  | .blockMappingStart => some (.mappingStart, [.key])
  | _ => none

/-- A node begins with such a token. -/
theorem node_of_begun {t : Token} {kind : EventKind (List Char)} {inner : List Goal}
    (h : begun t.kind = some (kind, inner)) (loose : Bool) (goals : List Goal) (ts : List Token) :
    g.node true loose goals (t :: ts) = .ok (bare t.line kind (inner ++ goals) ts) := by
  obtain ⟨line, k⟩ := t
  cases k <;> cases h <;> rfl

/-- Such a token ends nothing. -/
theorem not_ends_of_begun {k : TokenKind} (h : (begun k).isSome = true) :
    endsItem k = false ∧ endsPart k = false ∧ endsContent k = false := by
  cases k <;> cases h <;> exact ⟨rfl, rfl, rfl⟩

/-- A node that is not missing. -/
theorem nodeUnless_of_begun {t : Token} (stop : TokenKind → Bool) (hstop : stop t.kind = false)
    (loose : Bool) (goals : List Goal) (ts : List Token) :
    g.nodeUnless stop true loose goals (t :: ts) = g.node true loose goals (t :: ts) := by
  simp [nodeUnless, look, hstop, bind, Except.bind]

/-- A sequence that is indented as the mapping around it begins with its first item. -/
theorem node_of_blockEntry {t : Token} (h : t.kind = .blockEntry) (goals : List Goal)
    (ts : List Token) :
    g.node true true goals (t :: ts) =
      .ok (bare t.line .sequenceStart (.looseItem :: goals) (t :: ts)) := by
  obtain ⟨line, k⟩ := t
  subst h
  rfl

/-! ### Steps of collections -/

/-- The goals of which each is an item or the end of its sequence. -/
inductive IsItemGoal : Goal → Prop
  /-- The sequence has tokens of its own. -/
  | item : IsItemGoal .item
  /-- The sequence is indented as the mapping around it. -/
  | looseItem : IsItemGoal .looseItem

/-- An item stands behind its mark. -/
theorem step_blockEntry {goal : Goal} (hgoal : IsItemGoal goal) {t u : Token}
    (ht : t.kind = .blockEntry) (hu : (begun u.kind).isSome = true) (goals : List Goal)
    (ts : List Token) :
    g.step goal goals (t :: u :: ts) = g.node true false (goal :: goals) (u :: ts) := by
  obtain ⟨hitem, hpart, -⟩ := not_ends_of_begun hu
  cases hgoal with
  | item =>
      simp only [step, look, ht, bind, Except.bind, List.tail_cons]
      exact nodeUnless_of_begun endsItem hitem false _ ts
  | looseItem =>
      simp only [step, look, ht, bind, Except.bind, List.tail_cons]
      exact nodeUnless_of_begun (fun k => endsItem k || endsPart k) (by simp [hitem, hpart]) false
        _ ts

/-- A sequence without tokens of its own ends before a token that begins no item. -/
theorem step_looseItem_end {t : Token} (ht : t.kind ≠ .blockEntry) (goals : List Goal)
    (ts : List Token) :
    g.step .looseItem goals (t :: ts) = .ok (bare t.line .sequenceEnd goals (t :: ts)) := by
  obtain ⟨line, k⟩ := t
  cases k
  case blockEntry => exact absurd rfl ht
  all_goals rfl

/-- A key stands behind its mark. -/
theorem step_key {t u : Token} (ht : t.kind = .key) (hu : (begun u.kind).isSome = true)
    (goals : List Goal) (ts : List Token) :
    g.step .key goals (t :: u :: ts) = g.node true true (.value :: .key :: goals) (u :: ts) := by
  simp only [step, look, ht, bind, Except.bind, List.tail_cons]
  exact nodeUnless_of_begun endsPart (not_ends_of_begun hu).2.1 true _ ts

/-- A value stands behind its mark. -/
theorem step_value {t u : Token} (ht : t.kind = .value) (hu : endsPart u.kind = false)
    (goals : List Goal) (ts : List Token) :
    g.step .value goals (t :: u :: ts) = g.node true true goals (u :: ts) := by
  simp only [step, look, ht, bind, Except.bind, List.tail_cons]
  exact nodeUnless_of_begun endsPart hu true _ ts

end Grammar

/-! ### Events of values -/

/-- What an event says as far as it matters: to which node a reference refers does not, and whether
a scalar is written without quotes does so only if it would be something else than a text. -/
def EventKind.settled {ρ : Type} : EventKind ρ → EventKind Unit
  | .alias _ => .alias ()
  | .scalar text plain => .scalar text (plain && !readsAsText text)
  | .sequenceStart => .sequenceStart
  | .sequenceEnd => .sequenceEnd
  | .mappingStart => .mappingStart
  | .mappingEnd => .mappingEnd

/-- An event that is no reference and has neither a name nor a type. -/
structure Event.IsBare {ρ : Type} (e : Event ρ) : Prop where
  /-- It is no reference. -/
  noAlias : ∀ target, e.kind ≠ .alias target
  /-- It has no name. -/
  anchor : e.anchor = none
  /-- It has no type. -/
  tag : e.tag = none

/-- Events that say what is given, and nothing else. -/
structure Says {ρ : Type} (es : List (Event ρ)) (kinds : List (EventKind Unit)) : Prop where
  /-- They say it. -/
  kinds : es.map (·.kind.settled) = kinds
  /-- They say nothing else. -/
  bare : ∀ e ∈ es, e.IsBare

mutual

/-- The events of a value. -/
def nodeEvents : Value → List (EventKind Unit)
  | .array vs => .sequenceStart :: (itemEvents vs ++ [.sequenceEnd])
  | .object ms => .mappingStart :: (pairEvents ms ++ [.mappingEnd])
  | v => [.scalar (leafText v) (isWord v)]

/-- The events of items. -/
def itemEvents : List Value → List (EventKind Unit)
  | [] => []
  | v :: vs => nodeEvents v ++ itemEvents vs

/-- The events of members. -/
def pairEvents : List (String × Value) → List (EventKind Unit)
  | [] => []
  | (k, v) :: ms => .scalar k.toList false :: (nodeEvents v ++ pairEvents ms)

end

section Says

variable {ρ : Type} {es es' : List (Event ρ)} {kinds kinds' : List (EventKind Unit)}

/-- Nothing is said. -/
theorem says_nil : Says ([] : List (Event ρ)) [] := ⟨rfl, by simp⟩

/-- One event says what it is. -/
theorem says_cons {e : Event ρ} (he : e.IsBare) (h : Says es kinds) :
    Says (e :: es) (e.kind.settled :: kinds) :=
  ⟨by rw [List.map_cons, h.kinds], List.forall_mem_cons.mpr ⟨he, h.bare⟩⟩

/-- Events say one thing after the other. -/
theorem Says.append (h : Says es kinds) (h' : Says es' kinds') :
    Says (es ++ es') (kinds ++ kinds') :=
  ⟨by rw [List.map_append, h.kinds, h'.kinds], List.forall_mem_append.mpr ⟨h.bare, h'.bare⟩⟩

/-- An event without reference, name and type. -/
theorem isBare_bare (line : Nat) {kind : EventKind (List Char)} (hkind : ∀ name, kind ≠ .alias name)
    (goals : List Goal) (ts : List Token) : (Grammar.bare line kind goals ts).event.IsBare :=
  ⟨hkind, rfl, rfl⟩

end Says

/-! ### Tokens and events -/

/-- A token other than a scalar is known. -/
theorem TokenKind.eq_of_settled {k k' : TokenKind} (h : k.settled = k')
    (hk : ∀ text plain, k' ≠ .scalar text plain) : k = k' := by
  subst h
  cases k
  case scalar text plain => exact absurd rfl (hk text _)
  all_goals rfl

/-- A scalar is known but for the way in which it is written. -/
theorem TokenKind.exists_of_settled {k : TokenKind} {text : List Char} {word : Bool}
    (h : k.settled = .scalar text word) :
    ∃ plain, k = .scalar text plain ∧ (plain && !readsAsText text) = word := by
  cases k
  case scalar text' plain =>
    obtain ⟨rfl, hword⟩ := TokenKind.scalar.inj h
    exact ⟨plain, rfl, hword⟩
  all_goals exact absurd h (by simp [TokenKind.settled])

/-- The tokens of a value begin with one that begins a node. -/
theorem exists_nodeTokens (v : Value) :
    ∃ k more, nodeTokens v = k :: more ∧ (Grammar.begun k).isSome = true := by
  rcases v with - | _ | _ | _ | ⟨- | _⟩ | ⟨- | _⟩ <;> exact ⟨_, _, rfl, rfl⟩

/-- The tokens of a value behind its key begin with one that begins a node, or an item. -/
theorem exists_belowTokens (v : Value) :
    ∃ k more, belowTokens v = k :: more ∧ Grammar.endsPart k = false := by
  rcases v with - | _ | _ | _ | ⟨- | ⟨v, vs⟩⟩ | ⟨- | _⟩
  case array.cons => exact ⟨.blockEntry, _, by rw [belowTokens, itemTokens], rfl⟩
  all_goals exact ⟨_, _, rfl, rfl⟩

/-- The tokens that are found for a value begin with one that begins a node. -/
theorem exists_begun {v : Value} {ts : List Token} (h : ts.map (·.kind.settled) = nodeTokens v) :
    ∃ t more, ts = t :: more ∧ (Grammar.begun t.kind).isSome = true := by
  obtain ⟨k, more, hk, hbegun⟩ := exists_nodeTokens v
  rw [hk, List.map_eq_cons_iff] at h
  obtain ⟨t, ts, rfl, rfl, -⟩ := h
  refine ⟨t, ts, rfl, ?_⟩
  rw [← hbegun]
  cases t.kind <;> rfl

/-- The tokens that are found for a value behind its key begin with one that may stand there. -/
theorem exists_not_endsPart {v : Value} {ts : List Token}
    (h : ts.map (·.kind.settled) = belowTokens v) :
    ∃ t more, ts = t :: more ∧ Grammar.endsPart t.kind = false := by
  obtain ⟨k, more, hk, hends⟩ := exists_belowTokens v
  rw [hk, List.map_eq_cons_iff] at h
  obtain ⟨t, ts, rfl, rfl, -⟩ := h
  refine ⟨t, ts, rfl, ?_⟩
  rw [← hends]
  cases t.kind <;> rfl

/-! ### Runs for values -/

namespace Grammar

variable {g : Grammar} {goals goals' goals'' : List Goal} {ts ts' ts'' rest : List Token}
  {kinds kinds' : List (EventKind Unit)} {v : Value}

/-- The grammar goes from goals and tokens to others, and says what is given. -/
def Yields (g : Grammar) (goals : List Goal) (ts : List Token) (kinds : List (EventKind Unit))
    (goals' : List Goal) (ts' : List Token) : Prop :=
  ∃ events, g.Emits goals ts events goals' ts' ∧ Says events kinds

/-- A node begins here, after which its goals and tokens are gone. -/
def YieldsNode (g : Grammar) (loose : Bool) (goals : List Goal) (ts : List Token)
    (kinds : List (EventKind Unit)) (ts' : List Token) : Prop :=
  ∃ s kinds', g.node true loose goals ts = .ok s ∧ s.event.IsBare ∧
    g.Yields s.goals s.tokens kinds' goals ts' ∧ kinds = s.event.kind.settled :: kinds'

/-- Nothing is said where nothing is done. -/
theorem yields_nil (g : Grammar) (goals : List Goal) (ts : List Token) :
    g.Yields goals ts [] goals ts :=
  ⟨[], .refl goals ts, says_nil⟩

/-- One thing is said after the other. -/
theorem Yields.trans (h : g.Yields goals ts kinds goals' ts')
    (h' : g.Yields goals' ts' kinds' goals'' ts'') :
    g.Yields goals ts (kinds ++ kinds') goals'' ts'' := by
  obtain ⟨events, hemits, hsays⟩ := h
  obtain ⟨events', hemits', hsays'⟩ := h'
  exact ⟨events ++ events', hemits.trans hemits', hsays.append hsays'⟩

/-- One step says one thing. -/
theorem yields_step {goal : Goal} {s : GrammarStep} (hstep : g.step goal goals ts = .ok s)
    (hbare : s.event.IsBare) (h : g.Yields s.goals s.tokens kinds goals' ts') :
    g.Yields (goal :: goals) ts (s.event.kind.settled :: kinds) goals' ts' := by
  obtain ⟨events, hemits, hsays⟩ := h
  exact ⟨s.event :: events, .step hstep hemits, says_cons hbare hsays⟩

/-- A step that begins a node goes on behind it. -/
theorem YieldsNode.yields {loose : Bool} {goal : Goal} (h : g.YieldsNode loose goals' ts kinds rest)
    (hstep : g.step goal goals ts' = g.node true loose goals' ts) :
    g.Yields (goal :: goals) ts' kinds goals' rest := by
  obtain ⟨s, kinds', hnode, hbare, hrest, rfl⟩ := h
  exact yields_step (hstep.trans hnode) hbare hrest

/-- A node whose first token is known. -/
theorem yieldsNode_of_begun {t : Token} {kind : EventKind (List Char)} {inner : List Goal}
    (h : begun t.kind = some (kind, inner)) (loose : Bool)
    (hinner : g.Yields (inner ++ goals) ts kinds goals rest) :
    g.YieldsNode loose goals (t :: ts) (kind.settled :: kinds) rest := by
  have hkind : ∀ name, kind ≠ .alias name := by
    rintro name rfl
    cases hk : t.kind <;> simp [hk, begun] at h
  exact ⟨_, kinds, node_of_begun h loose goals ts, isBare_bare t.line hkind _ _, hinner, rfl⟩

/-- A collection ends. -/
theorem yields_end {goal : Goal} {line : Nat} {kind : EventKind (List Char)}
    (hkind : ∀ name, kind ≠ .alias name)
    (hstep : g.step goal goals ts = .ok (bare line kind goals rest)) :
    g.Yields (goal :: goals) ts [kind.settled] goals rest :=
  yields_step hstep (isBare_bare line hkind goals rest) (yields_nil g goals rest)

/-- The tokens that are left begin no item. -/
def EndsItems (ts : List Token) : Prop := ∃ t rest, ts = t :: rest ∧ t.kind ≠ .blockEntry

/-- The events of a value are read where it may stand. -/
structure Emitted (g : Grammar) (v : Value) : Prop where
  /-- As a node with tokens of its own. -/
  node : ∀ (loose : Bool) (goals : List Goal) (ts rest : List Token),
    ts.map (·.kind.settled) = nodeTokens v →
    g.YieldsNode loose goals (ts ++ rest) (nodeEvents v) rest
  /-- Behind its key. -/
  below : ∀ (goals : List Goal) (ts rest : List Token),
    ts.map (·.kind.settled) = belowTokens v → EndsItems rest →
    g.YieldsNode true goals (ts ++ rest) (nodeEvents v) rest

/-- **The items of a sequence.** -/
theorem yields_items {goal : Goal} (hgoal : IsItemGoal goal) (goals : List Goal) {vs : List Value}
    (hvs : ∀ v ∈ vs, Emitted g v) (rest : List Token)
    (hts : ts.map (·.kind.settled) = itemTokens vs) :
    g.Yields (goal :: goals) (ts ++ rest) (itemEvents vs) (goal :: goals) rest := by
  induction vs generalizing ts with
  | nil =>
      rw [itemTokens, List.map_eq_nil_iff] at hts
      subst hts
      exact yields_nil g _ rest
  | cons v vs ih =>
      rw [List.forall_mem_cons] at hvs
      rw [itemTokens, List.map_eq_cons_iff] at hts
      obtain ⟨t, ts, rfl, ht, hts⟩ := hts
      obtain ⟨own, others, rfl, hown, hothers⟩ := List.map_eq_append_iff.mp hts
      obtain ⟨u, more, rfl, hu⟩ := exists_begun hown
      have hnode := hvs.1.node false (goal :: goals) (u :: more) (others ++ rest) hown
      have hstep := step_blockEntry (g := g) hgoal (TokenKind.eq_of_settled ht (by simp)) hu goals
        (more ++ (others ++ rest))
      have hitem := hnode.yields hstep
      rw [itemEvents]
      simpa using hitem.trans (ih hvs.2 hothers)

/-- Behind a member stands a key, or what stands behind the members. -/
theorem endsItems_pairTokens {ms : List (String × Value)}
    (hts : ts.map (·.kind.settled) = pairTokens ms) (hrest : EndsItems rest) :
    EndsItems (ts ++ rest) := by
  rcases ms with - | ⟨⟨k, v⟩, ms⟩
  · rw [pairTokens, List.map_eq_nil_iff] at hts
    subst hts
    exact hrest
  · rw [pairTokens, List.map_eq_cons_iff] at hts
    obtain ⟨t, ts, rfl, ht, -⟩ := hts
    refine ⟨t, ts ++ rest, rfl, ?_⟩
    rw [TokenKind.eq_of_settled ht (by simp)]
    simp

/-- The value of a member. -/
theorem yields_value {k : String} (goals : List Goal) (hv : Emitted g v) {t : Token}
    (ht : t.kind = .value)
    (hts : ts.map (·.kind.settled) = if isSimpleKey k.toList then belowTokens v else nodeTokens v)
    (hrest : EndsItems rest) :
    g.Yields (.value :: goals) (t :: (ts ++ rest)) (nodeEvents v) goals rest := by
  split at hts
  · obtain ⟨u, more, rfl, hu⟩ := exists_not_endsPart hts
    exact (hv.below goals (u :: more) rest hts hrest).yields (step_value ht hu goals _)
  · obtain ⟨u, more, rfl, hu⟩ := exists_begun hts
    exact (hv.node true goals (u :: more) rest hts).yields
      (step_value ht (not_ends_of_begun hu).2.1 goals _)

/-- **The members of a mapping.** -/
theorem yields_pairs {ms : List (String × Value)} (goals : List Goal)
    (hms : ∀ k v, (k, v) ∈ ms → Emitted g v)
    (hts : ts.map (·.kind.settled) = pairTokens ms) (hrest : EndsItems rest) :
    g.Yields (.key :: goals) (ts ++ rest) (pairEvents ms) (.key :: goals) rest := by
  induction ms generalizing ts with
  | nil =>
      rw [pairTokens, List.map_eq_nil_iff] at hts
      subst hts
      exact yields_nil g _ rest
  | cons m ms ih =>
      obtain ⟨k, v⟩ := m
      rw [Keyed.forall_mem_cons] at hms
      rw [pairTokens, List.map_eq_cons_iff] at hts
      obtain ⟨t, ts, rfl, ht, hts⟩ := hts
      obtain ⟨u, ts, rfl, hu, hts⟩ := List.map_eq_cons_iff.mp hts
      obtain ⟨w, ts, rfl, hw, hts⟩ := List.map_eq_cons_iff.mp hts
      obtain ⟨own, others, rfl, hown, hothers⟩ := List.map_eq_append_iff.mp hts
      obtain ⟨plain, hplain, hsettled⟩ := TokenKind.exists_of_settled hu
      have hbegun : begun u.kind = some (.scalar k.toList plain, []) := by rw [hplain, begun]
      -- the key is a scalar, so a value is the next goal
      have hkey : g.Yields (.key :: goals) (t :: u :: w :: (own ++ (others ++ rest)))
          [.scalar k.toList false] (.value :: .key :: goals) (w :: (own ++ (others ++ rest))) := by
        have hnode := yieldsNode_of_begun hbegun true
          (yields_nil g (.value :: .key :: goals) (w :: (own ++ (others ++ rest))))
        rw [← hsettled]
        exact hnode.yields
          (step_key (TokenKind.eq_of_settled ht (by simp)) (by simp [hbegun]) goals _)
      have hvalue := yields_value (.key :: goals) hms.1
        (TokenKind.eq_of_settled hw (by simp)) hown (endsItems_pairTokens hothers hrest)
      have hpairs := ih hms.2 hothers
      rw [pairEvents]
      simpa using (hkey.trans hvalue).trans hpairs

/-- A value without lines of its own is a scalar, or empty brackets. -/
theorem yieldsNode_leaf {v : Value} (hlines : takesLines v = false) (loose : Bool)
    (hts : ts.map (·.kind.settled) = leafTokens v) :
    g.YieldsNode loose goals (ts ++ rest) (nodeEvents v) rest := by
  have hscalar : leafTokens v = [.scalar (leafText v) (isWord v)] →
      nodeEvents v = [.scalar (leafText v) (isWord v)] →
      g.YieldsNode loose goals (ts ++ rest) (nodeEvents v) rest := by
    intro htokens hevents
    rw [htokens, List.map_eq_singleton_iff] at hts
    obtain ⟨t, rfl, ht⟩ := hts
    obtain ⟨plain, hplain, hsettled⟩ := TokenKind.exists_of_settled ht
    have hbegun : begun t.kind = some (.scalar (leafText v) plain, []) := by rw [hplain, begun]
    rw [hevents, ← hsettled]
    exact yieldsNode_of_begun hbegun loose (yields_nil g goals rest)
  rcases v with - | b | n | s | ⟨- | _⟩ | ⟨- | _⟩
  case array.nil =>
    rw [leafTokens, List.map_eq_cons_iff] at hts
    obtain ⟨t, ts, rfl, ht, hts⟩ := hts
    obtain ⟨u, rfl, hu⟩ := List.map_eq_singleton_iff.mp hts
    have hstart : t.kind = .flowSequenceStart := TokenKind.eq_of_settled ht (by simp)
    have hstop : u.kind = .flowSequenceEnd := TokenKind.eq_of_settled hu (by simp)
    have hend : g.step (.flowItem true) goals (u :: rest) =
        .ok (bare u.line .sequenceEnd goals rest) := by
      simp [step, flowItem, look, hstop, bind, Except.bind, pure, Except.pure]
    exact yieldsNode_of_begun (by rw [hstart, begun]) loose (yields_end (by simp) hend)
  case object.nil =>
    rw [leafTokens, List.map_eq_cons_iff] at hts
    obtain ⟨t, ts, rfl, ht, hts⟩ := hts
    obtain ⟨u, rfl, hu⟩ := List.map_eq_singleton_iff.mp hts
    have hstart : t.kind = .flowMappingStart := TokenKind.eq_of_settled ht (by simp)
    have hstop : u.kind = .flowMappingEnd := TokenKind.eq_of_settled hu (by simp)
    have hend : g.step (.flowKey true) goals (u :: rest) =
        .ok (bare u.line .mappingEnd goals rest) := by
      simp [step, flowKey, look, hstop, bind, Except.bind, pure, Except.pure]
    exact yieldsNode_of_begun (by rw [hstart, begun]) loose (yields_end (by simp) hend)
  case array.cons => exact absurd hlines (by simp [takesLines])
  case object.cons => exact absurd hlines (by simp [takesLines])
  all_goals exact hscalar rfl rfl

/-- A value without lines of its own is read where it may stand. -/
theorem emitted_leaf (hlines : takesLines v = false) : Emitted g v := by
  obtain ⟨-, -, hnode, hbelow⟩ := of_takesLines_eq_false hlines 0 (.line 0 'x' [])
  rw [valueBehind] at hnode hbelow
  constructor
  · intro loose goals ts rest hts
    rw [hnode] at hts
    exact yieldsNode_leaf hlines loose hts
  · intro goals ts rest hts _
    rw [hbelow] at hts
    exact yieldsNode_leaf hlines true hts

/-- The end of a collection by indentation. -/
theorem yields_blockEnd {goal : Goal} (kind : EventKind (List Char))
    (hkind : ∀ name, kind ≠ .alias name)
    (hgoal : (goal = .item ∧ kind = .sequenceEnd) ∨ (goal = .key ∧ kind = .mappingEnd)) {t : Token}
    (ht : t.kind = .blockEnd) : g.Yields (goal :: goals) (t :: rest) [kind.settled] goals rest := by
  have hstep : g.step goal goals (t :: rest) = .ok (bare t.line kind goals rest) := by
    rcases hgoal with ⟨rfl, rfl⟩ | ⟨rfl, rfl⟩ <;>
      simp [step, look, ht, bind, Except.bind, pure, Except.pure]
  exact yields_end hkind hstep

/-- A sequence is read where it may stand. -/
theorem emitted_array {vs : List Value} (hne : vs ≠ []) (hvs : ∀ v ∈ vs, Emitted g v) :
    Emitted g (.array vs) := by
  constructor
  · intro loose goals ts rest hts
    rw [nodeTokens_array hne, List.map_eq_cons_iff] at hts
    obtain ⟨t, ts, rfl, ht, hts⟩ := hts
    obtain ⟨items, last, rfl, hitems, hlast⟩ := List.map_eq_append_iff.mp hts
    obtain ⟨u, rfl, hu⟩ := List.map_eq_singleton_iff.mp hlast
    have hstart : begun t.kind = some (.sequenceStart, [.item]) := by
      rw [TokenKind.eq_of_settled ht (by simp), begun]
    have hrun := (yields_items .item goals hvs (u :: rest) hitems).trans
      (yields_blockEnd .sequenceEnd (by simp) (.inl ⟨rfl, rfl⟩)
        (TokenKind.eq_of_settled hu (by simp)))
    have hnode := yieldsNode_of_begun hstart loose hrun
    rw [nodeEvents]
    simpa [EventKind.settled] using hnode
  · intro goals ts rest hts hrest
    rw [belowTokens_array hne] at hts
    have hrun := yields_items .looseItem goals hvs rest hts
    obtain ⟨v, vs, rfl⟩ := List.exists_cons_of_ne_nil hne
    rw [itemTokens, List.map_eq_cons_iff] at hts
    obtain ⟨t, ts, rfl, ht, -⟩ := hts
    obtain ⟨u, rest, rfl, hu⟩ := hrest
    have hend := yields_end (by simp) (step_looseItem_end (g := g) hu goals rest)
    have hnode := node_of_blockEntry (g := g) (TokenKind.eq_of_settled ht (by simp)) goals
      (ts ++ (u :: rest))
    refine ⟨_, _, hnode, isBare_bare t.line (by simp) _ _, hrun.trans hend, ?_⟩
    rw [nodeEvents]
    rfl

/-- A mapping is read where it may stand. -/
theorem emitted_object {ms : Members} (hne : ms ≠ []) (hms : ∀ k v, (k, v) ∈ ms → Emitted g v) :
    Emitted g (.object ms) := by
  have hnode : ∀ (loose : Bool) (goals : List Goal) (ts rest : List Token),
      ts.map (·.kind.settled) = nodeTokens (.object ms) →
      g.YieldsNode loose goals (ts ++ rest) (nodeEvents (.object ms)) rest := by
    intro loose goals ts rest hts
    rw [nodeTokens_object hne, List.map_eq_cons_iff] at hts
    obtain ⟨t, ts, rfl, ht, hts⟩ := hts
    obtain ⟨pairs, last, rfl, hpairs, hlast⟩ := List.map_eq_append_iff.mp hts
    obtain ⟨u, rfl, hu⟩ := List.map_eq_singleton_iff.mp hlast
    have hstart : begun t.kind = some (.mappingStart, [.key]) := by
      rw [TokenKind.eq_of_settled ht (by simp), begun]
    have hstop : u.kind = .blockEnd := TokenKind.eq_of_settled hu (by simp)
    have hrest : EndsItems (u :: rest) := ⟨u, rest, rfl, by simp [hstop]⟩
    have hrun := (yields_pairs goals hms hpairs hrest).trans
      (yields_blockEnd .mappingEnd (by simp) (.inr ⟨rfl, rfl⟩) hstop)
    have hnode := yieldsNode_of_begun hstart loose hrun
    rw [nodeEvents]
    simpa [EventKind.settled] using hnode
  refine ⟨hnode, fun goals ts rest hts _ => ?_⟩
  rw [belowTokens_object hne] at hts
  exact hnode true goals ts rest hts

/-- **Every value is read where it may stand.** -/
theorem emitted (g : Grammar) (v : Value) : Emitted g v := by
  induction v using Value.induct with
  | null => exact emitted_leaf rfl
  | bool b => exact emitted_leaf rfl
  | number n => exact emitted_leaf rfl
  | string s => exact emitted_leaf rfl
  | array vs ih =>
      by_cases hne : vs = []
      · subst hne
        exact emitted_leaf rfl
      · exact emitted_array hne ih
  | object ms ih =>
      by_cases hne : ms = []
      · subst hne
        exact emitted_leaf rfl
      · exact emitted_object hne ih

end Grammar

/-! ### Documents -/

/-- Items have at most two events for each of their tokens, apart from their marks. -/
theorem length_itemEvents_le {vs : List Value}
    (hvs : ∀ v ∈ vs, (nodeEvents v).length ≤ 2 * (nodeTokens v).length) :
    (itemEvents vs).length + 2 * vs.length ≤ 2 * (itemTokens vs).length := by
  induction vs with
  | nil => simp [itemEvents]
  | cons v vs ih =>
      rw [List.forall_mem_cons] at hvs
      have hitem := hvs.1
      have hitems := ih hvs.2
      simp only [itemEvents, itemTokens, List.length_append, List.length_cons]
      omega

/-- Members have at most two events for each of their tokens. -/
theorem length_pairEvents_le {ms : List (String × Value)}
    (hms : ∀ k v, (k, v) ∈ ms → (nodeEvents v).length ≤ 2 * (nodeTokens v).length ∧
      (nodeEvents v).length ≤ 2 * (belowTokens v).length) :
    (pairEvents ms).length ≤ 2 * (pairTokens ms).length := by
  induction ms with
  | nil => simp [pairEvents]
  | cons m ms ih =>
      obtain ⟨k, v⟩ := m
      rw [Keyed.forall_mem_cons] at hms
      obtain ⟨hnode, hbelow⟩ := hms.1
      have hpairs := ih hms.2
      simp only [pairEvents, pairTokens, List.length_append, List.length_cons]
      split <;> omega

/-- A value has at most two events for each of its tokens. -/
theorem length_nodeEvents_le (v : Value) :
    (nodeEvents v).length ≤ 2 * (nodeTokens v).length ∧
      (nodeEvents v).length ≤ 2 * (belowTokens v).length := by
  induction v using Value.induct with
  | null => exact ⟨Nat.le_succ 1, Nat.le_succ 1⟩
  | bool b => exact ⟨Nat.le_succ 1, Nat.le_succ 1⟩
  | number n => exact ⟨Nat.le_succ 1, Nat.le_succ 1⟩
  | string s => exact ⟨Nat.le_succ 1, Nat.le_succ 1⟩
  | array vs ih =>
      have hitems := length_itemEvents_le fun v hv => (ih v hv).1
      rcases vs with - | ⟨v, vs⟩
      · exact ⟨by decide, by decide⟩
      · simp only [nodeEvents, nodeTokens, belowTokens, List.length_append, List.length_cons,
          List.length_nil] at hitems ⊢
        omega
  | object ms ih =>
      have hpairs := length_pairEvents_le ih
      rcases ms with - | ⟨m, ms⟩
      · exact ⟨by decide, by decide⟩
      · simp only [nodeEvents, nodeTokens, belowTokens, List.length_append, List.length_cons,
          List.length_nil] at hpairs ⊢
        omega

/-- A document may begin with a token that begins a node. -/
theorem first_of_begun {t : Token} (h : (Grammar.begun t.kind).isSome = true) (ts : List Token)
    (lost : Nat) :
    Document.first (t :: ts) lost =
      Document.read (Grammar.withDefaults { handles := [], lost }) .root (t :: ts) := by
  obtain ⟨line, k⟩ := t
  cases k <;> cases h <;> rfl

/-- **The document in the tokens of a value.** -/
theorem first_of_nodeTokens {v : Value} {tokens : List Token}
    (h : tokens.map (·.kind.settled) = nodeTokens v ++ [.streamEnd]) (lost : Nat) :
    ∃ events, Document.first tokens lost = { events, fault := none, more := false } ∧
      Says events (nodeEvents v) := by
  obtain ⟨own, last, rfl, hown, hlast⟩ := List.map_eq_append_iff.mp h
  obtain ⟨e, rfl, he⟩ := List.map_eq_singleton_iff.mp hlast
  obtain ⟨t, more, rfl, ht⟩ := exists_begun hown
  obtain ⟨g, hg⟩ : ∃ g, Grammar.withDefaults { handles := [], lost } = g := ⟨_, rfl⟩
  have hroot : g.step .root [] (t :: more ++ [e]) = g.node true false [] (t :: more ++ [e]) := rfl
  obtain ⟨events, hemits, hsays⟩ :=
    ((Grammar.emitted g v).node false [] (t :: more) [e] hown).yields hroot
  have hfuel : events.length ≤ 4 * (t :: more ++ [e]).length + 4 := by
    have hlength := congrArg List.length hsays.kinds
    have htokens := congrArg List.length hown
    have hbound := (length_nodeEvents_le v).1
    rw [List.length_map] at hlength htokens
    rw [List.length_append]
    omega
  refine ⟨events, ?_, hsays⟩
  have hend : e.kind = .streamEnd := TokenKind.eq_of_settled he (by simp)
  rw [List.cons_append, first_of_begun ht, hg, ← List.cons_append, Document.read,
    Grammar.run_of_emits hemits hfuel]
  simp [Document.hasMore, hend]

end JsonWorkbench.Yaml
