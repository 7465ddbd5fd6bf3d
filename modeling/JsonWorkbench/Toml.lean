import JsonWorkbench.Text.Blank
import JsonWorkbench.Toml.Printer
import JsonWorkbench.Toml.Reader

/-!
# TOML Documents

The documents of the workbench as TOML texts. Only objects have one. It is written without the
blanks and line feeds around it.

## Main definitions

* `encode`, `decode` — a value as a text, and back.
-/

namespace JsonWorkbench.Toml

/-- The text of an object. -/
def encode : Value → Except Error String
  | .object ms => do
    let kept ← membersWithoutNulls "$" ms
    return String.ofList (Text.trim (write kept))
  | _ => .error (.mismatch .documentRoot)

/-- The value of a text. -/
def decode (text : String) : Except Error Value :=
  (read text.toList).mapError fun line => .decode (.malformed .toml (some line))

end JsonWorkbench.Toml
