import JsonWorkbench.Diff.Patch
import JsonWorkbench.Proofs.Text
import Mathlib.Data.List.Basic

/-!
# Pointers of Paths

The pointer of a path of names and indices leads where the path leads. It is cut into reference
tokens at the slashes, which an escaped token does not have; undoing the escapes gives the names
back, and the tokens of indices are read as these indices.

## Main results

* `unescapeToken_escapeToken` — the escapes of a token are undone.
* `pointerTokens?_pointer` — the tokens of the pointer of a path.
* `tokenIndex?_digitsOf` — an index is read back from its token.
-/

namespace JsonWorkbench

/-! ### Escapes -/

/-- The escape of a character. -/
def escapedChar (c : Char) : List Char :=
  if c = '~' then ['~', '0'] else if c = '/' then ['~', '1'] else [c]

/-- Tokens are escaped character by character. -/
theorem escapeToken_eq_flatMap (cs : List Char) : escapeToken cs = cs.flatMap escapedChar := by
  rw [escapeToken, Text.replaceText_singleton, Text.replaceText_singleton, List.flatMap_assoc]
  congr 1
  funext c
  by_cases htilde : c = '~'
  · simp [htilde, escapedChar]
  · by_cases hslash : c = '/' <;> simp [htilde, hslash, escapedChar]

/-- An escaped token has no slash. -/
theorem slash_not_mem_escapeToken (cs : List Char) : '/' ∉ escapeToken cs := by
  rw [escapeToken_eq_flatMap, List.mem_flatMap]
  rintro ⟨c, -, hc⟩
  by_cases htilde : c = '~'
  · simp [escapedChar, htilde] at hc
  · by_cases hslash : c = '/'
    · simp [escapedChar, hslash] at hc
    · rw [escapedChar, if_neg htilde, if_neg hslash, List.mem_singleton] at hc
      exact hslash hc.symm

/-- Undoing the escapes of slashes leaves those of tildes. -/
theorem replaceText_slash_escaped (cs : List Char) :
    Text.replaceTextFrom ['~', '1'] ['/'] 0 (cs.flatMap escapedChar) =
      cs.flatMap fun c => if c = '~' then ['~', '0'] else [c] := by
  induction cs with
  | nil => rfl
  | cons c cs ih =>
      rw [List.flatMap_cons, List.flatMap_cons, ← ih]
      by_cases htilde : c = '~'
      · simp [htilde, escapedChar, Text.replaceTextFrom, List.isPrefixOf]
      · by_cases hslash : c = '/'
        · simp [hslash, escapedChar, Text.replaceTextFrom, List.isPrefixOf]
        · simp [htilde, hslash, Ne.symm htilde, escapedChar, Text.replaceTextFrom,
            List.isPrefixOf]

/-- Undoing the escapes of tildes. -/
theorem replaceText_tilde_escaped (cs : List Char) :
    Text.replaceTextFrom ['~', '0'] ['~'] 0
      (cs.flatMap fun c => if c = '~' then ['~', '0'] else [c]) = cs := by
  induction cs with
  | nil => rfl
  | cons c cs ih =>
      rw [List.flatMap_cons]
      by_cases htilde : c = '~'
      · simp [htilde, Text.replaceTextFrom, List.isPrefixOf, ih]
      · simp [htilde, Ne.symm htilde, Text.replaceTextFrom, List.isPrefixOf, ih]

/-- **The escapes of a token are undone.** -/
theorem unescapeToken_escapeToken (cs : List Char) : unescapeToken (escapeToken cs) = cs := by
  rw [unescapeToken, escapeToken_eq_flatMap, Text.replaceText, Text.replaceText,
    replaceText_slash_escaped, replaceText_tilde_escaped]

/-- Digits need no escape. -/
theorem escapeToken_digitsOf (i : Nat) : escapeToken (digitsOf i) = digitsOf i := by
  rw [escapeToken_eq_flatMap]
  have hplain : ∀ c ∈ digitsOf i, escapedChar c = [c] := by
    intro c hc
    have hdigit : c.isDigit = true := isDigit_of_mem_digitsOf hc
    have htilde : c ≠ '~' := by
      rintro rfl
      exact absurd hdigit (by decide)
    have hslash : c ≠ '/' := by
      rintro rfl
      exact absurd hdigit (by decide)
    rw [escapedChar, if_neg htilde, if_neg hslash]
  rw [List.flatMap_congr hplain]
  simp

/-! ### Tokens -/

/-- The reference token of a segment that names one place. -/
def segmentToken : Segment φ → String
  | .key k => k
  | .index i => String.ofList (digitsOf i)
  | _ => ""

/-- The part of a pointer behind a slash is the escaped token of a segment. -/
theorem pointer_cons {s : Segment Condition} (hs : s.isLiteral = true) (path : Path) :
    (Path.pointer (s :: path)).toList =
      '/' :: (escapeToken (segmentToken s).toList ++ (Path.pointer path).toList) := by
  cases s with
  | key k => simp [Path.pointer, segmentsPointer, segmentToken]
  | index i => simp [Path.pointer, segmentsPointer, segmentToken, escapeToken_digitsOf]
  | wildcard | slice _ _ | filter _ | descendant _ => simp [Segment.isLiteral] at hs

/-- The pieces of a pointer behind its first slash are the escaped tokens. -/
theorem pieces_pointer {s : Segment Condition} {path : Path}
    (h : ∀ t ∈ s :: path, t.isLiteral = true) :
    Text.pieces (· == '/') (escapeToken (segmentToken s).toList ++ (Path.pointer path).toList) =
      (s :: path).map fun t => escapeToken (segmentToken t).toList := by
  have hfree : ∀ t : Segment Condition,
      ∀ c ∈ escapeToken (segmentToken t).toList, (c == '/') = false := by
    intro t c hc
    rw [beq_eq_false_iff_ne]
    rintro rfl
    exact slash_not_mem_escapeToken _ hc
  induction path generalizing s with
  | nil =>
      have hempty : (Path.pointer []).toList = [] := by simp [Path.pointer, segmentsPointer]
      rw [hempty, List.append_nil, Text.pieces_of_forall_not (hfree s)]
      rfl
  | cons t path ih =>
      have hrest : ∀ u ∈ t :: path, u.isLiteral = true :=
        fun u hu => h u (List.mem_cons_of_mem _ hu)
      rw [pointer_cons (hrest t (List.mem_cons_self ..)),
        Text.pieces_append_cons (hfree s) (beq_self_eq_true _), ih hrest]
      rfl

/-- **The tokens of the pointer of a path** are those of its segments. -/
theorem pointerTokens?_pointer {path : Path} (h : ∀ s ∈ path, s.isLiteral = true) :
    pointerTokens? (Path.pointer path) = some (path.map segmentToken) := by
  cases path with
  | nil => simp [pointerTokens?, Path.pointer, segmentsPointer]
  | cons s path =>
      rw [pointerTokens?, pointer_cons (h s (List.mem_cons_self ..))]
      simp only [pieces_pointer h, List.map_map, Option.some.injEq]
      refine List.map_congr_left fun t _ => ?_
      rw [Function.comp_apply, unescapeToken_escapeToken, String.ofList_toList]

/-! ### Indices -/

/-- An index is read back from its token. -/
theorem tokenIndex?_digitsOf (i : Nat) : tokenIndex? (String.ofList (digitsOf i)) = some i := by
  have hzero : ((digitsOf i).length == 1 || (digitsOf i).head? != some '0') = true := by
    rcases Nat.eq_zero_or_pos i with rfl | hpos
    · decide
    · rw [Bool.or_eq_true, bne_iff_ne]
      exact .inr (head?_digitsOf hpos)
  rw [tokenIndex?, String.toList_ofList]
  simp only [isEmpty_digitsOf, all_isDigit_digitsOf, hzero, digitsValue_digitsOf, Bool.not_false,
    Bool.and_self, if_true]

/-- The token of an index is not the token of the place behind the last item. -/
theorem ofList_digitsOf_ne_dash (i : Nat) : String.ofList (digitsOf i) ≠ "-" := by
  intro h
  have hlist : digitsOf i = ['-'] := by simpa using congrArg String.toList h
  exact digitsOf_ne_cons rfl i [] hlist

end JsonWorkbench
