/-!
# Reading with Limited Room

A reader of nested texts opens only so many containers inside one another. Whether a part is read
is decided by the room that is left for it and by its own need: a part that needs no more than
there is room for is read, any other one is refused because it is too deep, whatever else it may
be. `Within` says both at once, so that the two directions are carried through a reader together;
of several parts, the first that is too deep is the one that is refused.

## Main definitions

* `Within` — what comes of reading a part, by its need and the room.

## Main results

* `Within.opened`, `Within.bind` — a part behind an opening bracket, and a part before another one.
* `Within.eq_ok_iff` — a part is read exactly if there is room for it.
-/

namespace JsonWorkbench

variable {ε ε' α β : Type} {deep : ε → Prop} {room n m : Nat}

/-- What comes of reading a part that needs `n` containers, where there is room for `room`. The
faults `deep` are those of a part that is too deep. -/
inductive Within (deep : ε → Prop) (room : Nat) (a : α) (n : Nat) : Except ε α → Prop
  /-- There is room, and the part is read. -/
  | fits (h : n ≤ room) : Within deep room a n (.ok a)
  /-- There is no room. -/
  | tooDeep (h : room < n) {e : ε} (he : deep e) : Within deep room a n (.error e)

namespace Within

/-- A result that is read is changed. -/
theorem map {a : α} {r : Except ε α} (h : Within deep room a n r) (f : α → β) :
    Within deep room (f a) n (r.map f) := by
  cases h with
  | fits h => exact .fits h
  | tooDeep h he => exact .tooDeep h he

/-- A fault is told in another way. -/
theorem mapError {deep' : ε' → Prop} {a : α} {r : Except ε α} (h : Within deep room a n r)
    {f : ε → ε'} (hf : ∀ e, deep e → deep' (f e)) : Within deep' room a n (r.mapError f) := by
  cases h with
  | fits h => exact .fits h
  | tooDeep h he => exact .tooDeep h (hf _ he)

/-- Behind an opening bracket there is room for one container less. -/
theorem opened {a : α} {r : Except ε α} (h : Within deep room a n r) :
    Within deep (room + 1) a (n + 1) r := by
  cases h with
  | fits h => exact .fits (Nat.succ_le_succ h)
  | tooDeep h he => exact .tooDeep (Nat.succ_lt_succ h) he

/-- A part and then another one. -/
theorem bind {a : α} {b : β} {r : Except ε α} (h : Within deep room a n r)
    {f : α → Except ε β} (hf : Within deep room b m (f a)) :
    Within deep room b (max n m) (r.bind f) := by
  cases h with
  | tooDeep h he => exact .tooDeep (Nat.lt_of_lt_of_le h (Nat.le_max_left n m)) he
  | fits h =>
      generalize hr : f a = r at hf
      have hbind : (Except.ok a).bind f = r := hr
      rw [hbind]
      cases hf with
      | fits hm => exact .fits (Nat.max_le.mpr ⟨h, hm⟩)
      | tooDeep hm he => exact .tooDeep (Nat.lt_of_lt_of_le hm (Nat.le_max_right n m)) he

/-- A part is read exactly if there is room for it. -/
theorem eq_ok_iff {a : α} {r : Except ε α} (h : Within deep room a n r) :
    r = .ok a ↔ n ≤ room := by
  cases h with
  | fits h => exact iff_of_true rfl h
  | tooDeep h _ => exact iff_of_false (fun heq => nomatch heq) (Nat.not_le.mpr h)

end Within

end JsonWorkbench
