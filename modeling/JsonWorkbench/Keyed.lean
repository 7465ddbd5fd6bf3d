/-!
# Keyed Lists

A finite map from texts that keeps the order in which its keys came first, as the list of its
pairs. Objects, properties and declarations are kept so. A key is meant to occur once; look-up
takes the first occurrence.

## Main definitions

* `Keyed.get?`, `Keyed.insert`, `Keyed.ofPairs` — the map.
-/

namespace JsonWorkbench.Keyed

/-- The value under a key. -/
def get? : List (String × α) → String → Option α
  | [], _ => none
  | (k, a) :: ps, key => if k = key then some a else get? ps key

/-- Whether the key is present. -/
def has (ps : List (String × α)) (key : String) : Bool := (get? ps key).isSome

/-- The pairs with a value put under a key: a known key keeps its place, a new one comes last. -/
def insert : List (String × α) → String → α → List (String × α)
  | [], key, a => [(key, a)]
  | (k, b) :: ps, key, a => if k = key then (k, a) :: ps else (k, b) :: insert ps key a

/-- The map that a sequence of pairs gives when the pairs are inserted one after another. -/
def ofPairs (pairs : List (String × α)) : List (String × α) :=
  pairs.foldl (fun ps (k, a) => insert ps k a) []

end JsonWorkbench.Keyed
