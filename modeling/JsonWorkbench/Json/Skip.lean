import JsonWorkbench.Json.Reader

/-!
# Skipping JSON Values

A reader that looks for one kind of document passes over values that do not concern it. Such a
value has to be well formed, but it is given no meaning: numbers may be of any size, containers
may be nested to any depth, escapes may name half a character.

A text of `n` characters is passed over in fewer than `3 * n + 3` nested calls.

## Main definitions

* `skipString`, `skipNumber`, `skipValue` — the text behind a string, a numeral, a value.
-/

namespace JsonWorkbench.Json

/-- The text behind an escape, of which the backslash has been read. -/
def skipEscape (cs : List Char) : Except Fault (List Char) :=
  match cs with
  | [] => .error (.here .endInString [])
  | c :: rest =>
    if ['"', '\\', '/', 'b', 'f', 'n', 'r', 't'].contains c then .ok rest
    else if c == 'u' then (readHex rest).map fun _ => rest.drop 4
    else .error (.next .invalidEscape cs)

/-- The work of `skipString`, with the number of characters still to be passed over. -/
def skipStringFrom : Nat → List Char → Except Fault (List Char)
  | _, [] => .error (.here .endInString [])
  | skip + 1, _ :: cs => skipStringFrom skip cs
  | 0, c :: cs =>
    if c == '"' then .ok cs
    else if c == '\\' then
      match skipEscape cs with
      | .error e => .error e
      | .ok rest => skipStringFrom (cs.length - rest.length) cs
    else if c.toNat < 0x20 then .error (.here .controlCharacter (c :: cs))
    else skipStringFrom 0 cs

/-- The text behind a string, of which the opening quote has been read. -/
def skipString (cs : List Char) : Except Fault (List Char) := skipStringFrom 0 cs

/-- The text behind an exponent, of which the letter has been read. -/
def skipExponent (cs : List Char) : Except Fault (List Char) :=
  let rest := (Decimal.spanSign cs).2
  let (digits, behind) := Decimal.spanDigits rest
  if digits.isEmpty then .error (.next .invalidNumber rest) else .ok behind

/-- The text behind an exponent, if one follows. -/
def skipScale (cs : List Char) : Except Fault (List Char) :=
  match cs with
  | 'e' :: rest => skipExponent rest
  | 'E' :: rest => skipExponent rest
  | _ => .ok cs

/-- The text behind a numeral, of which the sign has been read. -/
def skipNumber (cs : List Char) : Except Fault (List Char) :=
  let (digits, rest) := Decimal.spanDigits cs
  match digits with
  | [] => .error (.next .invalidNumber cs)
  | '0' :: _ :: _ => .error (.next .invalidNumber (cs.drop 1))
  | _ =>
    match rest with
    | '.' :: more =>
      let (fraction, behind) := Decimal.spanDigits more
      if fraction.isEmpty then .error (.next .invalidNumber more) else skipScale behind
    | _ => skipScale rest

mutual

/-- The text behind a value. -/
def skipValueWithin : Nat → List Char → Except Fault (List Char)
  | 0, cs => .error (.here .tooDeep cs)
  | fuel + 1, text =>
    let cs := skipSpace text
    match cs with
    | [] => .error (.here .endInValue [])
    | c :: rest =>
      if c == 'n' then (readWord ['u', 'l', 'l'] .null rest).map (·.2)
      else if c == 't' then (readWord ['r', 'u', 'e'] .null rest).map (·.2)
      else if c == 'f' then (readWord ['a', 'l', 's', 'e'] .null rest).map (·.2)
      else if c == '-' then skipNumber rest
      else if c.isDigit then skipNumber cs
      else if c == '"' then skipString rest
      else if c == '[' then skipItems fuel true rest
      else if c == '{' then skipMembers fuel true rest
      else .error (.next .expectedValue cs)
termination_by structural fuel => fuel

/-- The text behind the closing bracket of an array; before all items but the first stands a
comma. -/
def skipItems : Nat → Bool → List Char → Except Fault (List Char)
  | 0, _, cs => .error (.here .tooDeep cs)
  | fuel + 1, first, text =>
    let cs := skipSpace text
    match cs with
    | [] => .error (.here .endInArray [])
    | c :: rest =>
      if c == ']' then .ok rest
      else if first || c == ',' then
        match skipValueWithin fuel (if first then cs else rest) with
        | .error e => .error e
        | .ok behind => skipItems fuel false behind
      else .error (.next .expectedCommaOrBracket cs)
termination_by structural fuel => fuel

/-- The text behind the closing brace of an object; before all members but the first stands a
comma. -/
def skipMembers : Nat → Bool → List Char → Except Fault (List Char)
  | 0, _, cs => .error (.here .tooDeep cs)
  | fuel + 1, first, text =>
    let cs := skipSpace text
    match cs with
    | [] => .error (.here .endInObject [])
    | c :: rest =>
      if c == '}' then .ok rest
      else if first || c == ',' then skipMember fuel (if first then cs else rest)
      else .error (.next .expectedCommaOrBrace cs)
termination_by structural fuel => fuel

/-- The text behind the closing brace, from the key of a member on. -/
def skipMember : Nat → List Char → Except Fault (List Char)
  | 0, cs => .error (.here .tooDeep cs)
  | fuel + 1, text =>
    match skipSpace text with
    | [] => .error (.here .endInObject [])
    | '"' :: rest =>
      match skipString rest with
      | .error e => .error e
      | .ok behind =>
        match skipSpace behind with
        | [] => .error (.here .endInObject [])
        | ':' :: more =>
          match skipValueWithin fuel more with
          | .error e => .error e
          | .ok last => skipMembers fuel false last
        | other => .error (.next .expectedColon other)
    | other => .error (.next .keyNotString other)
termination_by structural fuel => fuel

end

/-- The text behind a value, with blanks before it. -/
def skipValue (cs : List Char) : Except Fault (List Char) := skipValueWithin (fuelFor cs) cs

end JsonWorkbench.Json
