import JsonWorkbench.Proofs.Yaml.CoreScalar
import JsonWorkbench.Proofs.Yaml.Event
import JsonWorkbench.Yaml.Reader

/-!
# Values from Events

A document without references is read in one pass, and the events of a value give that value back
as long as it is not nested too deep. No document, whatever its events, gives a value that is nested
deeper than the reader allows.

## Main results

* `readsBack` — the events of a value are read as that value.
* `value_of_says` — a document of such events.
* `nesting_le_of_value` — the depth of what is read.
-/

namespace JsonWorkbench.Yaml

/-! ### What events say -/

section Says

variable {ρ : Type} {es : List (Event ρ)} {kind : EventKind Unit}
  {kinds kinds' : List (EventKind Unit)}

/-- The first thing is said by the first event. -/
theorem Says.exists_cons (h : Says es (kind :: kinds)) :
    ∃ e rest, es = e :: rest ∧ e.IsBare ∧ e.kind.settled = kind ∧ Says rest kinds := by
  obtain ⟨e, rest, rfl, he, hrest⟩ := List.map_eq_cons_iff.mp h.kinds
  have hbare := List.forall_mem_cons.mp h.bare
  exact ⟨e, rest, rfl, hbare.1, he, ⟨hrest, hbare.2⟩⟩

/-- The first things are said by the first events. -/
theorem Says.exists_append (h : Says es (kinds ++ kinds')) :
    ∃ own rest, es = own ++ rest ∧ Says own kinds ∧ Says rest kinds' := by
  obtain ⟨own, rest, rfl, hown, hrest⟩ := List.map_eq_append_iff.mp h.kinds
  have hbare := List.forall_mem_append.mp h.bare
  exact ⟨own, rest, rfl, ⟨hown, hbare.1⟩, ⟨hrest, hbare.2⟩⟩

/-- A single thing is said by a single event. -/
theorem Says.exists_singleton (h : Says es [kind]) :
    ∃ e, es = [e] ∧ e.IsBare ∧ e.kind.settled = kind := by
  obtain ⟨e, rest, rfl, hbare, he, hrest⟩ := h.exists_cons
  have hnil : rest = [] := List.map_eq_nil_iff.mp hrest.kinds
  subst hnil
  exact ⟨e, rfl, hbare, he⟩

/-- An event other than a scalar or reference is known. -/
theorem EventKind.eq_of_settled {k : EventKind ρ} :
    (k.settled = .sequenceStart → k = .sequenceStart) ∧
      (k.settled = .sequenceEnd → k = .sequenceEnd) ∧
      (k.settled = .mappingStart → k = .mappingStart) ∧
      (k.settled = .mappingEnd → k = .mappingEnd) := by
  cases k <;> simp [EventKind.settled]

/-- A scalar is known but for the way in which it is written. -/
theorem EventKind.exists_of_settled {k : EventKind ρ} {text : List Char} {word : Bool}
    (h : k.settled = .scalar text word) :
    ∃ plain, k = .scalar text plain ∧ (plain && !readsAsText text) = word := by
  cases k
  case scalar text' plain =>
    obtain ⟨rfl, hword⟩ := EventKind.scalar.inj h
    exact ⟨plain, rfl, hword⟩
  all_goals exact absurd h (by simp [EventKind.settled])

end Says

/-! ### References -/

/-- An event without name and reference is linked as it is. -/
theorem exists_link_cons (fault : Option Nat) (a : Anchors) (place : Nat) {e : NamedEvent}
    (he : e.IsBare) (es : List NamedEvent) :
    ∃ e' : Event Nat, e'.IsBare ∧ e'.kind.settled = e.kind.settled ∧
      link fault a place (e :: es) =
        { link fault a (place + 1) es with
          events := e' :: (link fault a (place + 1) es).events } := by
  obtain ⟨line, kind, anchor, tag⟩ := e
  obtain ⟨hkind, hanchor, htag⟩ := he
  cases hanchor
  cases kind
  case «alias» target => exact absurd rfl (hkind target)
  all_goals exact ⟨_, ⟨by simp [Event.withTargets], rfl, htag⟩, rfl, rfl⟩

/-- **Events without names and references** are linked as they are. -/
theorem exists_link (fault : Option Nat) (a : Anchors) (place : Nat) {es : List NamedEvent}
    {kinds : List (EventKind Unit)} (h : Says es kinds) :
    ∃ events, link fault a place es = { events, places := a.places, fault } ∧
      Says events kinds := by
  induction kinds generalizing es place with
  | nil =>
      have hnil : es = [] := List.map_eq_nil_iff.mp h.kinds
      subst hnil
      exact ⟨[], rfl, says_nil⟩
  | cons kind kinds ih =>
      obtain ⟨e, rest, rfl, he, rfl, hrest⟩ := h.exists_cons
      obtain ⟨events, hlink, hsays⟩ := ih (place + 1) hrest
      obtain ⟨e', hbare, hkind, hcons⟩ := exists_link_cons fault a place he rest
      rw [hlink] at hcons
      rw [← hkind]
      exact ⟨e' :: events, hcons, says_cons hbare hsays⟩

/-! ### Scalars -/

/-- **A scalar is read as its value.** -/
theorem scalarValue_leafText {v : Value} (hv : v.IsIntegral) (hwell : v.WellFormed)
    (hscalar : v.isContainer = false) {e : Event Nat} (htag : e.tag = none) {plain : Bool}
    (hplain : (plain && !readsAsText (leafText v)) = isWord v) :
    scalarValue e (leafText v) plain = .ok v := by
  -- all scalars but texts are words that are no texts
  have hword : isWord v = true → plainValue? (leafText v) = some v →
      scalarValue e (leafText v) plain = .ok v := by
    intro hword hvalue
    rw [hword, Bool.and_eq_true] at hplain
    simp [scalarValue, htag, hplain.1, hvalue]
  cases v with
  | null => exact hword rfl rfl
  | bool b => cases b <;> exact hword rfl rfl
  | number n =>
      cases n with
      | double x => exact absurd hv (by simp [Value.IsIntegral])
      | integer n =>
          rw [Value.WellFormed, Number.WellFormed] at hwell
          have hreads : isWord (.number (.integer n)) = !readsAsText (toString n).toList := rfl
          rw [readsAsText_toString hwell] at hreads
          exact hword hreads (plainValue?_toString hwell)
  | string s =>
      rw [leafText, isWord] at hplain
      rw [leafText, scalarValue, htag]
      cases plain with
      | false => simp
      | true =>
          have hreads : readsAsText s.toList = true := by simpa using hplain
          simp [plainValue?_of_readsAsText hreads]
  | array vs => exact absurd hscalar (by simp [Value.isContainer])
  | object ms => exact absurd hscalar (by simp [Value.isContainer])

/-! ### Steps of the reader -/

section Steps

variable {d : Linked} {fuel room jumps : Nat} {e : Event Nat} {es : List (Event Nat)}

/-- A scalar is next. -/
theorem readNode_scalar {text : List Char} {plain : Bool} (he : e.kind = .scalar text plain)
    (htag : e.tag = none) :
    readNode d (fuel + 1) room jumps (e :: es) = (scalarValue e text plain).map (·, jumps, es) := by
  cases room <;>
    simp [readNode, he, htag, isLocalTag]

/-- A sequence is next. -/
theorem readNode_sequence (he : e.kind = .sequenceStart) (htag : e.tag = none) :
    readNode d (fuel + 1) (room + 1) jumps (e :: es) =
      (readItems d fuel room jumps es).map fun (vs, rest) => (.array vs, rest) := by
  rw [readNode]
  simp [he, htag, isLocalTag]

/-- A mapping is next. -/
theorem readNode_mapping (he : e.kind = .mappingStart) (htag : e.tag = none) :
    readNode d (fuel + 1) (room + 1) jumps (e :: es) =
      (readPairs d fuel room jumps es).map fun (pairs, rest) =>
        (.object (Members.ofPairs pairs), rest) := by
  rw [readNode]
  simp [he, htag, isLocalTag]

/-- An item is read before the others. -/
theorem readItems_cons (he : e.kind ≠ .sequenceEnd) {v : Value} {jumps' : Nat}
    {rest : List (Event Nat)} (hv : readNode d fuel room jumps (e :: es) = .ok (v, jumps', rest)) :
    readItems d (fuel + 1) room jumps (e :: es) =
      (readItems d fuel room jumps' rest).map fun (vs, behind) => (v :: vs, behind) := by
  rw [readItems]
  simp [hv]

/-- A member whose key is a scalar is read before the others. -/
theorem readPairs_cons {text : List Char} {plain : Bool} (he : e.kind = .scalar text plain)
    {v : Value} {jumps' : Nat} {rest : List (Event Nat)}
    (hv : readNode d fuel room jumps es = .ok (v, jumps', rest)) :
    readPairs d (fuel + 1) room jumps (e :: es) =
      (readPairs d fuel room jumps' rest).map fun (pairs, behind) =>
        ((String.ofList text, v) :: pairs, behind) := by
  rw [readPairs]
  simp [he, hv, readKey]

end Steps

/-! ### Nodes -/

/-- The events of a value are read as that value, whatever stands behind them. -/
def ReadsBack (v : Value) : Prop :=
  ∀ (d : Linked) (es rest : List (Event Nat)) (fuel room jumps : Nat), Says es (nodeEvents v) →
    es.length ≤ fuel → v.nesting ≤ room →
    readNode d fuel room jumps (es ++ rest) = .ok (v, jumps, rest)

/-- The events of a value begin with one that does not end a collection. -/
theorem exists_nodeEvents (v : Value) :
    ∃ kind kinds, nodeEvents v = kind :: kinds ∧ kind ≠ .sequenceEnd ∧ kind ≠ .mappingEnd := by
  cases v <;> exact ⟨_, _, rfl, by simp, by simp⟩

variable {d : Linked} {fuel room jumps : Nat} {e : Event Nat} {es rest : List (Event Nat)}

/-- **The items of a sequence** are read up to its end. -/
theorem readItems_itemEvents {vs : List Value} (hvs : ∀ v ∈ vs, ReadsBack v)
    (hes : Says es (itemEvents vs)) (he : e.kind = .sequenceEnd) (hfuel : es.length + 1 ≤ fuel)
    (hroom : Value.nestingItems vs ≤ room) :
    readItems d fuel room jumps (es ++ e :: rest) = .ok (vs, jumps, rest) := by
  induction vs generalizing es fuel with
  | nil =>
      have hnil : es = [] := List.map_eq_nil_iff.mp hes.kinds
      subst hnil
      obtain ⟨fuel, rfl⟩ := Nat.exists_eq_succ_of_ne_zero (Nat.ne_of_gt hfuel)
      rw [List.nil_append, readItems]
      simp [he]
  | cons v vs ih =>
      rw [List.forall_mem_cons] at hvs
      rw [Value.nestingItems, Nat.max_le] at hroom
      rw [itemEvents] at hes
      obtain ⟨own, others, rfl, hown, hothers⟩ := hes.exists_append
      obtain ⟨kind, kinds, hkinds, hkind, -⟩ := exists_nodeEvents v
      obtain ⟨u, more, rfl, -, hu, -⟩ := (hkinds ▸ hown).exists_cons
      have hgoes : u.kind ≠ .sequenceEnd := by
        intro h
        rw [h] at hu
        exact hkind hu.symm
      rw [List.length_append, List.length_cons] at hfuel
      obtain ⟨fuel, rfl⟩ := Nat.exists_eq_succ_of_ne_zero (by omega : fuel ≠ 0)
      have hnode := hvs.1 d (u :: more) (others ++ e :: rest) fuel room jumps hown
        (by rw [List.length_cons]; omega) hroom.1
      rw [List.append_assoc]
      rw [List.cons_append] at hnode ⊢
      rw [readItems_cons hgoes hnode, ih hvs.2 hothers (by omega) hroom.2]
      rfl

/-- **The members of a mapping** are read up to its end. -/
theorem readPairs_pairEvents {ms : List (String × Value)} (hms : ∀ k v, (k, v) ∈ ms → ReadsBack v)
    (hes : Says es (pairEvents ms)) (he : e.kind = .mappingEnd) (hfuel : es.length + 1 ≤ fuel)
    (hroom : Value.nestingMembers ms ≤ room) :
    readPairs d fuel room jumps (es ++ e :: rest) = .ok (ms, jumps, rest) := by
  induction ms generalizing es fuel with
  | nil =>
      have hnil : es = [] := List.map_eq_nil_iff.mp hes.kinds
      subst hnil
      obtain ⟨fuel, rfl⟩ := Nat.exists_eq_succ_of_ne_zero (Nat.ne_of_gt hfuel)
      rw [List.nil_append, readPairs]
      simp [he]
  | cons m ms ih =>
      obtain ⟨k, v⟩ := m
      rw [Keyed.forall_mem_cons] at hms
      rw [Value.nestingMembers, Nat.max_le] at hroom
      rw [pairEvents] at hes
      obtain ⟨u, more, rfl, -, hu, hmore⟩ := hes.exists_cons
      obtain ⟨own, others, rfl, hown, hothers⟩ := hmore.exists_append
      obtain ⟨plain, hplain, -⟩ := EventKind.exists_of_settled hu
      rw [List.length_cons, List.length_append] at hfuel
      obtain ⟨fuel, rfl⟩ := Nat.exists_eq_succ_of_ne_zero (by omega : fuel ≠ 0)
      have hnode := hms.1 d own (others ++ e :: rest) fuel room jumps hown (by omega) hroom.1
      rw [List.cons_append, List.append_assoc, readPairs_cons hplain hnode,
        ih hms.2 hothers (by omega) hroom.2]
      simp [Except.map]

/-- The event of a scalar is read as that value. -/
theorem readsBack_scalar {v : Value} (hv : v.IsIntegral) (hwell : v.WellFormed)
    (hscalar : v.isContainer = false) (hevents : nodeEvents v = [.scalar (leafText v) (isWord v)]) :
    ReadsBack v := by
  intro d es rest fuel room jumps hes hfuel _
  rw [hevents] at hes
  obtain ⟨e, rfl, hbare, he⟩ := hes.exists_singleton
  obtain ⟨plain, hkind, hplain⟩ := EventKind.exists_of_settled he
  obtain ⟨fuel, rfl⟩ := Nat.exists_eq_succ_of_ne_zero (Nat.ne_of_gt hfuel)
  rw [List.singleton_append, readNode_scalar hkind hbare.tag,
    scalarValue_leafText hv hwell hscalar hbare.tag hplain]
  rfl

/-- The events of a sequence are read as that value. -/
theorem readsBack_array {vs : List Value} (hvs : ∀ v ∈ vs, ReadsBack v) :
    ReadsBack (.array vs) := by
  intro d es rest fuel room jumps hes hfuel hroom
  rw [nodeEvents] at hes
  obtain ⟨s, more, rfl, hs, hstart, hmore⟩ := hes.exists_cons
  obtain ⟨items, last, rfl, hitems, hlast⟩ := hmore.exists_append
  obtain ⟨e, rfl, -, hend⟩ := hlast.exists_singleton
  rw [Value.nesting] at hroom
  rw [List.length_cons, List.length_append, List.length_singleton] at hfuel
  obtain ⟨fuel, rfl⟩ := Nat.exists_eq_succ_of_ne_zero (by omega : fuel ≠ 0)
  obtain ⟨room, rfl⟩ := Nat.exists_eq_succ_of_ne_zero (by omega : room ≠ 0)
  rw [List.cons_append, List.append_assoc, List.singleton_append,
    readNode_sequence (EventKind.eq_of_settled.1 hstart) hs.tag,
    readItems_itemEvents hvs hitems (EventKind.eq_of_settled.2.1 hend) (by omega) (by omega)]
  rfl

/-- The events of a mapping are read as that value, if no key is repeated. -/
theorem readsBack_object {ms : Members} (hkeys : (ms.map (·.1)).Nodup)
    (hms : ∀ k v, (k, v) ∈ ms → ReadsBack v) : ReadsBack (.object ms) := by
  intro d es rest fuel room jumps hes hfuel hroom
  rw [nodeEvents] at hes
  obtain ⟨s, more, rfl, hs, hstart, hmore⟩ := hes.exists_cons
  obtain ⟨pairs, last, rfl, hpairs, hlast⟩ := hmore.exists_append
  obtain ⟨e, rfl, -, hend⟩ := hlast.exists_singleton
  rw [Value.nesting] at hroom
  rw [List.length_cons, List.length_append, List.length_singleton] at hfuel
  obtain ⟨fuel, rfl⟩ := Nat.exists_eq_succ_of_ne_zero (by omega : fuel ≠ 0)
  obtain ⟨room, rfl⟩ := Nat.exists_eq_succ_of_ne_zero (by omega : room ≠ 0)
  have hmap : Members.ofPairs ms = ms := Keyed.ofPairs_of_nodup hkeys
  rw [List.cons_append, List.append_assoc, List.singleton_append,
    readNode_mapping (EventKind.eq_of_settled.2.2.1 hstart) hs.tag,
    readPairs_pairEvents hms hpairs (EventKind.eq_of_settled.2.2.2 hend) (by omega) (by omega)]
  simp only [Except.map, hmap]

/-- **The events of a value** are read as that value. -/
theorem readsBack {v : Value} (hv : v.IsIntegral) (hwell : v.WellFormed) : ReadsBack v := by
  induction v using Value.induct with
  | null => exact readsBack_scalar hv hwell rfl rfl
  | bool b => exact readsBack_scalar hv hwell rfl rfl
  | number n => exact readsBack_scalar hv hwell rfl rfl
  | string s => exact readsBack_scalar hv hwell rfl rfl
  | array vs ih =>
      rw [Value.isIntegral_array_iff] at hv
      rw [Value.wellFormed_array_iff] at hwell
      exact readsBack_array fun v hmem => ih v hmem (hv v hmem) (hwell.2 v hmem)
  | object ms ih =>
      rw [Value.isIntegral_object_iff] at hv
      rw [Value.wellFormed_object_iff] at hwell
      exact readsBack_object hwell.1 fun k v hmem => ih k v hmem (hv k v hmem) (hwell.2 k v hmem)

/-- **A document with the events of a value** has that value. -/
theorem value_of_says {v : Value} (hv : v.IsIntegral) (hwell : v.WellFormed)
    (hdeep : v.nesting ≤ maxNesting) {events : List NamedEvent} (h : Says events (nodeEvents v)) :
    Document.value { events, fault := none, more := false } = .ok v := by
  obtain ⟨es, hlink, hes⟩ := exists_link none { numbers := [], places := [] } 0 h
  have hfuel : es.length ≤ 2 * (maxNesting + 2) * (es.length + 2) := by
    rw [maxNesting]
    omega
  have hread := readsBack hv hwell { events := es, places := [], fault := none } es []
    (2 * (maxNesting + 2) * (es.length + 2)) maxNesting (100 * es.length) hes hfuel hdeep
  obtain ⟨kind, kinds, hkinds, -⟩ := exists_nodeEvents v
  obtain ⟨e, rest, rfl, -⟩ := (hkinds ▸ hes).exists_cons
  rw [List.append_nil, List.length_cons] at hread
  simp [Document.value, hlink, hread, bind, Except.bind, pure, Except.pure]

/-! ### The depth of what is read -/

/-- What a scalar stands for is no container. -/
theorem isContainer_of_scalarValue {e : Event Nat} {text : List Char} {plain : Bool} {v : Value}
    (h : scalarValue e text plain = .ok v) : v.isContainer = false := by
  rw [scalarValue] at h
  split at h
  · next hvalue =>
      cases h
      split at hvalue
      · exact isContainer_of_typedValue? hvalue
      · split at hvalue
        · exact isContainer_of_plainValue? hvalue
        · cases hvalue
          rfl
  · cases h

/-- A value that is no container is not nested. -/
theorem nesting_of_isContainer {v : Value} (h : v.isContainer = false) : v.nesting = 0 := by
  cases v with
  | array vs => exact absurd h (by simp [Value.isContainer])
  | object ms => exact absurd h (by simp [Value.isContainer])
  | _ => rfl

/-- What a mapped reading gives is given by the reading. -/
theorem exists_of_map {α β : Type} {x : Except Fault α} {f : α → β} {b : β}
    (h : x.map f = .ok b) : ∃ a, x = .ok a ∧ f a = b := by
  cases x with
  | error fault => cases h
  | ok a => exact ⟨a, rfl, Except.ok.inj h⟩

/-- A node that has been read with some fuel is nested no deeper than there is room. -/
def NodeBound (d : Linked) (fuel : Nat) : Prop :=
  ∀ {room jumps jumps' : Nat} {es rest : List (Event Nat)} {v : Value},
    readNode d fuel room jumps es = .ok (v, jumps', rest) → v.nesting ≤ room

/-- Items that have been read with some fuel are nested no deeper than there is room. -/
def ItemsBound (d : Linked) (fuel : Nat) : Prop :=
  ∀ {room jumps jumps' : Nat} {es rest : List (Event Nat)} {vs : List Value},
    readItems d fuel room jumps es = .ok (vs, jumps', rest) → ∀ v ∈ vs, v.nesting ≤ room

/-- Pairs that have been read with some fuel are nested no deeper than there is room. -/
def PairsBound (d : Linked) (fuel : Nat) : Prop :=
  ∀ {room jumps jumps' : Nat} {es rest : List (Event Nat)} {ms : List (String × Value)},
    readPairs d fuel room jumps es = .ok (ms, jumps', rest) →
      ∀ k v, (k, v) ∈ ms → v.nesting ≤ room

/-- A container has room for one level less. -/
theorem nodeBound_succ {d : Linked} {fuel : Nat} (hnode : NodeBound d fuel)
    (hitems : ItemsBound d fuel) (hpairs : PairsBound d fuel) : NodeBound d (fuel + 1) := by
  intro room jumps jumps' es rest v h
  have hscalar : ∀ {e : Event Nat} {text : List Char} {plain : Bool} {es : List (Event Nat)},
      (scalarValue e text plain).map (·, jumps, es) = .ok (v, jumps', rest) →
        v.nesting ≤ room := by
    intro e text plain es h
    obtain ⟨w, hw, heq⟩ := exists_of_map h
    cases heq
    rw [nesting_of_isContainer (isContainer_of_scalarValue hw)]
    exact Nat.zero_le room
  rcases es with - | ⟨e, es⟩
  · rw [readNode.eq_2 _ _ _ _ (Nat.succ_ne_zero fuel)] at h
    cases h
  · rcases room with - | room <;> rw [readNode] at h <;> split at h
    · split at h
      · cases h
      · obtain ⟨⟨w, behind⟩, hw, heq⟩ := exists_of_map h
        cases heq
        exact hnode hw
    · split at h
      · cases h
      · split at h
        · exact hscalar h
        all_goals cases h
    · split at h
      · cases h
      · obtain ⟨⟨w, behind⟩, hw, heq⟩ := exists_of_map h
        cases heq
        exact hnode hw
    · split at h
      · cases h
      · split at h
        · exact hscalar h
        · obtain ⟨⟨vs, behind⟩, hvs, heq⟩ := exists_of_map h
          cases heq
          rw [Value.nesting]
          exact Nat.succ_le_succ (Value.nestingItems_le_iff.mpr (hitems hvs))
        · obtain ⟨⟨ms, behind⟩, hms, heq⟩ := exists_of_map h
          cases heq
          rw [Value.nesting]
          exact Nat.succ_le_succ (Value.nestingMembers_le_iff.mpr fun k v hmem =>
            hpairs hms k v (Keyed.mem_of_mem_ofPairs hmem))
        · cases h

/-- The items are bounded one by one. -/
theorem itemsBound_succ {d : Linked} {fuel : Nat} (hnode : NodeBound d fuel)
    (hitems : ItemsBound d fuel) : ItemsBound d (fuel + 1) := by
  intro room jumps jumps' es rest vs h
  rcases es with - | ⟨e, es⟩
  · rw [readItems] at h
    cases h
    simp
  · rw [readItems] at h
    split at h
    · cases h
      simp
    · split at h
      · cases h
      · next hread =>
          obtain ⟨⟨ws, behind⟩, hrest, heq⟩ := exists_of_map h
          cases heq
          exact List.forall_mem_cons.mpr ⟨hnode hread, hitems hrest⟩

/-- The pairs are bounded one by one. -/
theorem pairsBound_succ {d : Linked} {fuel : Nat} (hnode : NodeBound d fuel)
    (hpairs : PairsBound d fuel) : PairsBound d (fuel + 1) := by
  intro room jumps jumps' es rest ms h
  rcases es with - | ⟨e, es⟩
  · rw [readPairs] at h
    cases h
    simp
  · rw [readPairs] at h
    split at h
    · cases h
      simp
    · split at h
      · cases h
      · split at h
        · cases h
        · next hread =>
            obtain ⟨⟨ns, behind⟩, hrest, heq⟩ := exists_of_map h
            cases heq
            exact Keyed.forall_mem_cons.mpr ⟨hnode hread, hpairs hrest⟩

/-- Whatever the events, a node is nested no deeper than there is room. -/
theorem nodeBound (d : Linked) (fuel : Nat) :
    NodeBound d fuel ∧ ItemsBound d fuel ∧ PairsBound d fuel := by
  induction fuel with
  | zero =>
      refine ⟨fun h => ?_, fun h => ?_, fun h => ?_⟩
      · rw [readNode] at h
        cases h
      · rw [readItems] at h
        cases h
      · rw [readPairs] at h
        cases h
  | succ fuel ih =>
      obtain ⟨hnode, hitems, hpairs⟩ := ih
      exact ⟨nodeBound_succ hnode hitems hpairs, itemsBound_succ hnode hitems,
        pairsBound_succ hnode hpairs⟩

/-- **No document** has a value that is nested deeper than the reader allows. -/
theorem nesting_le_of_value {doc : Document} {v : Value} (h : doc.value = .ok v) :
    v.nesting ≤ maxNesting := by
  simp only [Document.value, bind, Except.bind, pure, Except.pure, throw, throwThe,
    MonadExceptOf.throw] at h
  generalize link doc.fault { numbers := [], places := [] } 0 doc.events = d at h
  -- what is checked last does not change the value
  have hchecked : ∀ w : Value, (if d.fault.isSome = true then .error { line := d.fault }
      else if doc.more = true then .error { line := none } else .ok w) =
        (.ok v : Except Fault Value) → w = v := by
    intro w h
    split at h
    · cases h
    · split at h
      · cases h
      · exact Except.ok.inj h
  split at h
  · rw [← hchecked _ h]
    exact Nat.zero_le maxNesting
  · split at h
    · cases h
    · next hread =>
        rw [← hchecked _ h]
        exact (nodeBound d _).1 hread

end JsonWorkbench.Yaml
