import JsonWorkbench.Files.Access

/-!
# Wildcards

A pattern for paths is a path whose names may hold wildcards: a question mark stands for one
character, an asterisk for any number of them, brackets for one of a set. Two asterisks that are a
whole name stand for any folders, also none. Names that start with a dot are names like others.

A pattern without wildcards in a name is followed without a look at the other names in the
folder. A file is found once for each way in which the pattern leads to it.

The search goes down from folder to folder, so that its depth is bounded by the length of a path.

## Main definitions

* `Wildcard`, `NamePattern`, `parsePattern?` — patterns.
* `matchesName` — whether a name fits.
* `search` — the paths that fit a pattern.
-/

namespace JsonWorkbench.Files

/-! ### Patterns -/

/-- A piece of a pattern for a name. -/
inductive Wildcard where
  /-- One character. -/
  | char (c : Char)
  /-- Any character. -/
  | any
  /-- Any number of characters. -/
  | sequence
  /-- A character in one of some ranges, or in none of them. -/
  | oneOf (negated : Bool) (ranges : List (Char × Char))
  deriving Repr, DecidableEq

/-- The pattern of a name. -/
inductive NamePattern where
  /-- Any folders, one below the other. -/
  | folders
  /-- One name. -/
  | name (pieces : List Wildcard)
  deriving Repr, DecidableEq

/-- The ranges between brackets: three characters with a hyphen in the middle are a range. -/
def rangesOf : List Char → List (Char × Char)
  | first :: '-' :: last :: rest => (first, last) :: rangesOf rest
  | c :: rest => (c, c) :: rangesOf rest
  | [] => []

/-- The text up to a closing bracket, of which the first character may be one, and the rest. -/
def cutBracket? : List Char → Option (List Char × List Char)
  | [] => none
  | c :: cs =>
    match cs.dropWhile (· ≠ ']') with
    | [] => none
    | _ :: rest => some (c :: cs.takeWhile (· ≠ ']'), rest)

/-- The pieces of a pattern for a name, if it is well formed. -/
def parsePieces? : Nat → List Char → Option (List Wildcard)
  | _, [] => some []
  | 0, _ => none
  | fuel + 1, c :: cs =>
    if c == '?' then (parsePieces? fuel cs).map (.any :: ·)
    else if c == '*' then
      if cs.head? == some '*' then none else (parsePieces? fuel cs).map (.sequence :: ·)
    else if c == '[' then
      let (negated, body) : Bool × List Char :=
        match cs with
        | '!' :: rest => (true, rest)
        | _ => (false, cs)
      match cutBracket? body with
      | none => none
      | some (inner, rest) => (parsePieces? fuel rest).map (.oneOf negated (rangesOf inner) :: ·)
    else (parsePieces? fuel cs).map (.char c :: ·)

/-- The pattern of a name. -/
def parseName? (text : List Char) : Option NamePattern :=
  if text = ['*', '*'] then some .folders
  else (parsePieces? text.length text).map .name

/-- The patterns of the names of a path; a slash at the start or the end adds none. -/
def parsePattern? (text : List Char) : Option (List NamePattern) :=
  let relative := if isAbsolute text then text.drop 1 else text
  let names := pieces relative
  (if names.getLast? == some [] then names.dropLast else names).mapM parseName?

/-- Whether a text has to be read as a pattern. -/
def hasWildcard (text : List Char) : Bool := text.any fun c => c == '*' || c == '?' || c == '['

/-! ### Matching -/

/-- Whether a character fits some ranges. -/
def inRanges (c : Char) (ranges : List (Char × Char)) : Bool :=
  ranges.any fun (first, last) => first ≤ c && c ≤ last

/-- Whether the test holds of a text or of what is left of it behind some characters. -/
def anySuffix (p : List Char → Bool) : List Char → Bool
  | [] => p []
  | c :: cs => p (c :: cs) || anySuffix p cs

/-- Whether a name fits a pattern. -/
def matchesName : List Wildcard → List Char → Bool
  | [], cs => cs.isEmpty
  | .sequence :: ws, cs => anySuffix (matchesName ws) cs
  | _ :: _, [] => false
  | .any :: ws, _ :: cs => matchesName ws cs
  | .char x :: ws, c :: cs => x == c && matchesName ws cs
  | .oneOf negated ranges :: ws, c :: cs => inRanges c ranges != negated && matchesName ws cs

/-- The name that a pattern stands for if it has no wildcards. -/
def plainName? : List Wildcard → Option (List Char)
  | [] => some []
  | .char c :: ws => (plainName? ws).map (c :: ·)
  | _ :: _ => none

/-! ### Search -/

variable {m : Type → Type} [Monad m] [FileAccess m]

/-- The greatest number of characters of a path. -/
def maxPath : Nat := 4096

/-- The path of a name in a folder; in the folder where one is, the name itself. -/
def pathIn (folder name : String) : String :=
  if parts folder.toList = [.here] then name
  else String.ofList (join folder.toList name.toList)

/-- The names of the folder itself and of the one above, as far as they fit a pattern that starts with
a dot. -/
def dotNames (ws : List Wildcard) : List String :=
  if ws.head? == some (.char '.') then
    [".", ".."].filter fun name => matchesName ws name.toList
  else []

mutual

/-- The paths that fit patterns below a folder. -/
def searchIn : Nat → List NamePattern → String → m (List String)
  | _, [], path => return [path]
  | 0, _ :: _, _ => return []
  | fuel + 1, .folders :: ps, path => do
    let found ← (← FileAccess.entries path).mapM fun name =>
      searchAt fuel (.folders :: ps) (pathIn path name) name
    return found.flatten
  | fuel + 1, .name ws :: ps, path => do
    match plainName? ws with
    | some plain =>
      let name := String.ofList plain
      let next := pathIn path name
      let isThere ← if name == "." || name == ".." then isFolder path else isPresent next
      if isThere then searchIn fuel ps next else return []
    | none =>
      if ← isFolder path then
        let found ← (← FileAccess.entries path).mapM fun name =>
          searchAt fuel (.name ws :: ps) (pathIn path name) name
        let dots ← (dotNames ws).mapM fun name =>
          searchIn fuel ps (String.ofList (join path.toList name.toList))
        return found.flatten ++ dots.flatten
      else return []
termination_by structural fuel => fuel

/-- The paths that fit patterns, of which the first is for this name. -/
def searchAt : Nat → List NamePattern → String → String → m (List String)
  | _, [], _, _ => return []
  | 0, _ :: _, _, _ => return []
  | fuel + 1, .name ws :: ps, path, name =>
    if matchesName ws name.toList then searchIn fuel ps path else return []
  | fuel + 1, .folders :: ps, path, name => do
    let below ← if ← isFolder path then searchIn fuel (.folders :: ps) path else pure []
    let here ←
      match ps.dropWhile (· == .folders) with
      | [] => pure []
      | next => searchAt fuel next path name
    return below ++ here
termination_by structural fuel => fuel

end

/-- The files that fit a pattern; `none` if the pattern is not well formed. -/
def search (text : String) : m (Option (List String)) := do
  match parsePattern? text.toList with
  | none => return none
  | some ps =>
    if text.toList.getLast? == some '/' then return some []
    else
      let start := if isAbsolute text.toList then "/" else "."
      return some (← (← searchIn maxPath ps start).filterM isFile)

end JsonWorkbench.Files
