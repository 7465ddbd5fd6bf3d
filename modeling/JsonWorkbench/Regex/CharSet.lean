import JsonWorkbench.Text.Blank
import JsonWorkbench.Text.Letter
import JsonWorkbench.Text.CaseMapping
import JsonWorkbench.Text.Category

/-!
# Sets of Characters

The character classes of regular expressions, as expressions over ranges and tables. Folding is
an operator on sets: a folded set holds every character that differs from a member in case only.

## Main definitions

* `CharSet`, `CharSet.contains` — sets and membership.
* `CharSet.word`, `CharSet.digit`, `CharSet.space` — the classes with a letter of their own.
* `CharSet.named?`, `CharSet.posix?` — the classes with a name.
-/

namespace JsonWorkbench.Regex

/-- A set of characters. -/
inductive CharSet where
  /-- The characters between two code points, ends included. -/
  | range (first last : Nat)
  /-- The characters of a table. -/
  | table (t : Text.CodeTable)
  /-- Every character. -/
  | all
  /-- No character. -/
  | none
  /-- The members of either set. -/
  | union (a b : CharSet)
  /-- The members of both sets. -/
  | inter (a b : CharSet)
  /-- The characters that are no members. -/
  | compl (a : CharSet)
  /-- The characters that differ from a member in case only. -/
  | folded (a : CharSet)

/-- The characters that differ from a character in case only, itself included. -/
def caseVariants (c : Char) : List Char :=
  let f := Text.foldCase c
  let fromAscii := if f.isLower then [f.toUpper] else []
  let fromTable := Text.foldShifts.filterMap fun r =>
    let d := ((f.toNat : Int) - r.shift).toNat
    if r.members.contains d then some (Char.ofNat d) else Option.none
  c :: f :: (fromAscii ++ fromTable)

/-- Membership in a set. -/
def CharSet.contains : CharSet → Char → Bool
  | .range first last, c => first ≤ c.toNat && c.toNat ≤ last
  | .table t, c => t.covers c
  | .all, _ => true
  | .none, _ => false
  | .union a b, c => a.contains c || b.contains c
  | .inter a b, c => a.contains c && b.contains c
  | .compl a, c => !a.contains c
  | .folded a, c => (caseVariants c).any a.contains

namespace CharSet

/-- The set of one character. -/
def single (c : Char) : CharSet := .range c.toNat c.toNat

/-- The union of a list of sets. -/
def unions (sets : List CharSet) : CharSet := sets.foldr .union .none

/-- The members of the first set that are no members of the second. -/
def diff (a b : CharSet) : CharSet := .inter a (.compl b)

/-- The members of exactly one of two sets. -/
def symmDiff (a b : CharSet) : CharSet := .union (.diff a b) (.diff b a)

/-- The set, or its complement. -/
def negateIf (negated : Bool) (a : CharSet) : CharSet := if negated then .compl a else a

/-- The set, folded where case is ignored. -/
def foldIf (ignoreCase : Bool) (a : CharSet) : CharSet := if ignoreCase then .folded a else a

/-! ### Classes with a letter -/

/-- Decimal digits. -/
def digit : CharSet := .table Text.decimalNumberRuns

/-- White space. -/
def space : CharSet :=
  unions [.range 0x09 0x0D, .range 0x20 0x20, .range 0x85 0x85, .range 0xA0 0xA0,
    .range 0x1680 0x1680, .range 0x2000 0x200A, .range 0x2028 0x2029, .range 0x202F 0x202F,
    .range 0x205F 0x205F, .range 0x3000 0x3000]

/-- Letters of the plain alphabet. -/
def asciiLetter : CharSet := .union (.range 0x41 0x5A) (.range 0x61 0x7A)

/-- Digits of the plain alphabet. -/
def asciiDigit : CharSet := .range 0x30 0x39

/-- Alphabetic characters. -/
def letter : CharSet := .union asciiLetter (.table Text.letterRuns)

/-- Marks. -/
def mark : CharSet :=
  unions [.table Text.nonspacingMarkRuns, .table Text.spacingMarkRuns, .table Text.enclosingMarkRuns]

/-- Characters of words: letters, marks, digits, connectors and the two joiners. -/
def word : CharSet :=
  unions [letter, digit, mark, .table Text.connectorPunctuationRuns, .range 0x200C 0x200D]

/-- Digits, white space and characters of words in the plain alphabet. -/
def asciiWord : CharSet := unions [asciiLetter, asciiDigit, .range 0x5F 0x5F]

/-- White space of the plain alphabet. -/
def asciiSpace : CharSet := .union (.range 0x09 0x0D) (.range 0x20 0x20)

/-! ### Classes with a name -/

/-- The set of a name in a bracket such as `[:alpha:]`. -/
def posix? : String → Option CharSet
  | "alnum" => some (.union asciiLetter asciiDigit)
  | "alpha" => some asciiLetter
  | "ascii" => some (.range 0 0x7F)
  | "blank" => some (.union (.range 0x09 0x09) (.range 0x20 0x20))
  | "cntrl" => some (.union (.range 0 0x1F) (.range 0x7F 0x7F))
  | "digit" => some asciiDigit
  | "graph" => some (.range 0x21 0x7E)
  | "lower" => some (.range 0x61 0x7A)
  | "print" => some (.range 0x20 0x7E)
  | "punct" =>
    some (unions [.range 0x21 0x2F, .range 0x3A 0x40, .range 0x5B 0x60, .range 0x7B 0x7E])
  | "space" => some asciiSpace
  | "upper" => some (.range 0x41 0x5A)
  | "word" => some asciiWord
  | "xdigit" => some (unions [asciiDigit, .range 0x41 0x46, .range 0x61 0x66])
  | _ => Option.none

/-- The union of the general categories with the given names. -/
def categories (names : List String) : CharSet :=
  unions (names.filterMap fun n => (Text.categoryRuns.lookup n).map .table)

/-- The general categories that a long or short name stands for, the name being in lower case and
without separators. -/
def categoryNames? : String → Option (List String)
  | "l" | "letter" => some ["Lu", "Ll", "Lt", "Lm", "Lo"]
  | "lc" | "casedletter" => some ["Lu", "Ll", "Lt"]
  | "lu" | "uppercaseletter" => some ["Lu"]
  | "ll" | "lowercaseletter" => some ["Ll"]
  | "lt" | "titlecaseletter" => some ["Lt"]
  | "lm" | "modifierletter" => some ["Lm"]
  | "lo" | "otherletter" => some ["Lo"]
  | "m" | "mark" | "combiningmark" => some ["Mn", "Mc", "Me"]
  | "mn" | "nonspacingmark" => some ["Mn"]
  | "mc" | "spacingmark" => some ["Mc"]
  | "me" | "enclosingmark" => some ["Me"]
  | "n" | "number" => some ["Nd", "Nl", "No"]
  | "nd" | "decimalnumber" | "digit" => some ["Nd"]
  | "nl" | "letternumber" => some ["Nl"]
  | "no" | "othernumber" => some ["No"]
  | "p" | "punctuation" | "punct" => some ["Pc", "Pd", "Ps", "Pe", "Pi", "Pf", "Po"]
  | "pc" | "connectorpunctuation" => some ["Pc"]
  | "pd" | "dashpunctuation" => some ["Pd"]
  | "ps" | "openpunctuation" => some ["Ps"]
  | "pe" | "closepunctuation" => some ["Pe"]
  | "pi" | "initialpunctuation" => some ["Pi"]
  | "pf" | "finalpunctuation" => some ["Pf"]
  | "po" | "otherpunctuation" => some ["Po"]
  | "s" | "symbol" => some ["Sm", "Sc", "Sk", "So"]
  | "sm" | "mathsymbol" => some ["Sm"]
  | "sc" | "currencysymbol" => some ["Sc"]
  | "sk" | "modifiersymbol" => some ["Sk"]
  | "so" | "othersymbol" => some ["So"]
  | "z" | "separator" => some ["Zs", "Zl", "Zp"]
  | "zs" | "spaceseparator" => some ["Zs"]
  | "zl" | "lineseparator" => some ["Zl"]
  | "zp" | "paragraphseparator" => some ["Zp"]
  | "cc" | "control" | "cntrl" => some ["Cc"]
  | "cf" | "format" => some ["Cf"]
  | "co" | "privateuse" => some ["Co"]
  | _ => Option.none

/-- The assigned code points. -/
def assigned : CharSet := categories (Text.categoryRuns.map (·.1))

/-- The set of a general category. -/
def category? (name : String) : Option CharSet :=
  match categoryNames? name with
  | some names => some (categories names)
  | Option.none =>
    match name with
    | "any" => some .all
    | "ascii" => some (.range 0 0x7F)
    | "assigned" => some assigned
    | "cn" | "unassigned" => some (.compl assigned)
    | "c" | "other" => some (.union (categories ["Cc", "Cf", "Co"]) (.compl assigned))
    | "cs" | "surrogate" => some .none
    | _ => Option.none

/-- The short names of scripts. -/
def scriptAliases : List (String × String) :=
  [("latn", "latin"), ("grek", "greek"), ("cyrl", "cyrillic"), ("hani", "han"),
   ("hang", "hangul"), ("hira", "hiragana"), ("kana", "katakana"), ("arab", "arabic"),
   ("hebr", "hebrew")]

/-- The set of a script. -/
def script? (name : String) : Option CharSet :=
  (Text.scriptRuns.lookup ((scriptAliases.lookup name).getD name)).map .table

/-- The set of a property that is not a category. -/
def property? : String → Option CharSet
  | "alphabetic" | "alpha" => some letter
  | "uppercase" | "upper" => some (.union (.range 0x41 0x5A) (.table Text.upperRuns))
  | "lowercase" | "lower" => some (.union (.range 0x61 0x7A) (.table Text.lowerRuns))
  | "whitespace" | "wspace" | "space" => some space
  | _ => Option.none

/-- A name in the form in which names are compared: in lower case, without blanks, hyphens and low
lines, and without the syllable `is` at its start. -/
def plainName (cs : List Char) : String :=
  let lower := cs.map Char.toLower
  let separates (c : Char) : Bool := c == ' ' || c == '_' || c == '-'
  let plain := lower.filter (!separates ·)
  let short := (lower.drop 2).filter (!separates ·)
  String.ofList (if lower.take 2 == ['i', 's'] && short != ['c'] then short else plain)

/-- The set of a name, compared by its plain form. -/
def named? (text : List Char) : Option CharSet :=
  match text.span (fun c => c != '=' && c != ':') with
  | (key, _ :: value) =>
    let inverted := key.getLast? == some '!'
    let key := if inverted then key.dropLast else key
    let found :=
      match plainName key with
      | "gc" | "generalcategory" => category? (plainName value)
      | "sc" | "script" | "scx" | "scriptextensions" => script? (plainName value)
      | _ => Option.none
    found.map (negateIf inverted)
  | (name, []) =>
    let name := plainName name
    match property? name with
    | some s => some s
    | Option.none =>
      match category? name with
      | some s => some s
      | Option.none => script? name

end CharSet

end JsonWorkbench.Regex
