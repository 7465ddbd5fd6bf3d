/-!
# UTF-8

Texts as bytes. A character takes one to four bytes; the first byte says how many, and the second
is restricted where a shorter form or no character at all would come out. A sequence of bytes
that is no text has a first place where it goes wrong; what is wrong there is a number of bytes,
or that the end is missing.

## Main definitions

* `encode`, `decode` — a text as bytes and back.
* `Utf8Fault` — where bytes are no text.
-/

namespace JsonWorkbench.Text

/-- Where bytes are no text. -/
structure Utf8Fault where
  /-- The number of bytes before the place. -/
  index : Nat
  /-- How many bytes are wrong there; `none` if the end is missing. -/
  wrong : Option Nat
  deriving Repr, DecidableEq

/-- The bytes of a text. -/
def encode (s : String) : List UInt8 := s.toList.flatMap String.utf8EncodeChar

/-- Whether a byte continues a character. -/
def isContinuation (b : UInt8) : Bool := 0x80 ≤ b && b ≤ 0xBF

/-- The bytes that may stand second, behind a first byte. -/
def secondBounds (first : UInt8) : UInt8 × UInt8 :=
  if first == 0xE0 then (0xA0, 0xBF)
  else if first == 0xED then (0x80, 0x9F)
  else if first == 0xF0 then (0x90, 0xBF)
  else if first == 0xF4 then (0x80, 0x8F)
  else (0x80, 0xBF)

/-- How many bytes follow a first byte; `none` if no character starts so. -/
def followers? (first : UInt8) : Option Nat :=
  if first < 0x80 then some 0
  else if first < 0xC2 then none
  else if first < 0xE0 then some 1
  else if first < 0xF0 then some 2
  else if first < 0xF5 then some 3
  else none

/-- The code point that further bytes complete: `count` are still needed and `seen` have been read. -/
def completeCode (code seen : Nat) : Nat → List UInt8 → Except (Option Nat) Nat
  | 0, _ => .ok code
  | _ + 1, [] => .error none
  | count + 1, b :: bs =>
    if isContinuation b then completeCode (code * 64 + (b.toNat - 0x80)) (seen + 1) count bs
    else .error (some seen)

/-- The character at the start of bytes, and how many bytes follow its first one. -/
def firstChar (first : UInt8) (rest : List UInt8) : Except (Option Nat) (Char × Nat) :=
  match followers? first with
  | none => .error (some 1)
  | some 0 => .ok (Char.ofNat first.toNat, 0)
  | some count =>
    match rest with
    | [] => .error none
    | second :: _ =>
      let (least, greatest) := secondBounds first
      if least ≤ second && second ≤ greatest then
        let lead := first.toNat % (0x40 >>> count)
        (completeCode lead 1 count rest).map fun code => (Char.ofNat code, count)
      else .error (some 1)

/-- The work of `decode`, with the number of bytes still to be skipped and the number of bytes
before. -/
def decodeFrom : Nat → Nat → List UInt8 → Except Utf8Fault (List Char)
  | _, _, [] => .ok []
  | skip + 1, index, _ :: bs => decodeFrom skip (index + 1) bs
  | 0, index, b :: bs =>
    match firstChar b bs with
    | .error wrong => .error { index, wrong }
    | .ok (c, count) => (decodeFrom count (index + 1) bs).map (c :: ·)

/-- The text of bytes. -/
def decode (bytes : List UInt8) : Except Utf8Fault String :=
  (decodeFrom 0 0 bytes).map String.ofList

end JsonWorkbench.Text
