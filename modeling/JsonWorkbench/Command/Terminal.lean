import JsonWorkbench.Files.Access

/-!
# Terminals

Where a command is given: there is an input to read, an output for results and another one for
what went wrong. The input is read as a whole; a second reading finds nothing.

As with files, commands are written for any terminal, and a `Transcript` is one that can be
reasoned about: it keeps what was written.

## Main definitions

* `Terminal` — the class of terminals.
* `Transcript`, `Workplace` — a terminal as a state, beside a folder as a state.
-/

namespace JsonWorkbench

/-- A place where commands are given. -/
class Terminal (m : Type → Type) where
  /-- All that is left of the input. -/
  input : m (List UInt8)
  /-- Write a line of a result. -/
  print : String → m Unit
  /-- Write a line about what went wrong. -/
  report : String → m Unit

/-- What is left to read and what has been written. -/
structure Transcript where
  /-- The rest of the input. -/
  rest : List UInt8 := []
  /-- The output for results. -/
  printed : String := ""
  /-- The output for what went wrong. -/
  reported : String := ""
  deriving Repr, DecidableEq

/-- A terminal and a folder as states. -/
abbrev Workplace := StateT Transcript FolderM

variable {σ ε : Type} {m : Type → Type} [Monad m]

instance : Terminal (StateT Transcript m) where
  input := modifyGet fun t => (t.rest, { t with rest := [] })
  print line := modify fun t => { t with printed := t.printed ++ line ++ "\n" }
  report line := modify fun t => { t with reported := t.reported ++ line ++ "\n" }

instance [FileAccess m] : FileAccess (StateT σ m) where
  kind? path := StateT.lift (FileAccess.kind? path)
  size path := StateT.lift (FileAccess.size path)
  entries path := StateT.lift (FileAccess.entries path)
  read path := StateT.lift (FileAccess.read path)
  write path bytes := StateT.lift (FileAccess.write path bytes)

instance [FileAccess m] : FileAccess (ExceptT ε m) where
  kind? path := ExceptT.lift (FileAccess.kind? path)
  size path := ExceptT.lift (FileAccess.size path)
  entries path := ExceptT.lift (FileAccess.entries path)
  read path := ExceptT.lift (FileAccess.read path)
  write path bytes := ExceptT.lift (FileAccess.write path bytes)

instance [Terminal m] : Terminal (ExceptT ε m) where
  input := ExceptT.lift Terminal.input
  print line := ExceptT.lift (Terminal.print line)
  report line := ExceptT.lift (Terminal.report line)

end JsonWorkbench
