import JsonWorkbench.Command.Run

/-!
# The Program

The command line on the terminal and the files of the machine. Nothing is decided here: the two
classes that commands are written for get their instances, and `main` runs the words it is given.
-/

namespace JsonWorkbench

/-- The fault that the machine reports. -/
def faultOf : IO.Error → FileFault
  | .noFileOrDirectory _ _ _ => .notFound
  | .alreadyExists _ _ _ => .exists
  | .permissionDenied _ number _ => .system number.toNat "Permission denied"
  | .resourceExhausted _ number text => .system number.toNat text
  | .inappropriateType _ _ _ => .notDirectory
  | e => .system 5 (toString e)

/-- What an action does, or the fault that the machine reports. -/
def attempt (action : IO α) : IO (Except FileFault α) := do
  match ← action.toBaseIO with
  | .ok a => return .ok a
  | .error e => return .error (faultOf e)

instance : FileAccess IO where
  kind? path := do
    let place := (← IO.currentDir) / path
    if !(← place.pathExists) then return none
    return some (if ← place.isDir then .folder else .file)
  size path := do
    let place := (← IO.currentDir) / path
    return ((← attempt place.metadata).toOption.map (·.byteSize.toNat)).getD 0
  entries path := do
    let place := (← IO.currentDir) / path
    return ((← attempt place.readDir).toOption.getD #[]).toList.map (·.fileName)
  read path := do
    let place := (← IO.currentDir) / path
    if ← place.isDir then return .error .isDirectory
    return (← attempt (IO.FS.readBinFile place)).map (·.toList)
  write path bytes := do
    let place := (← IO.currentDir) / path
    let folders : IO Unit := place.parent.forM fun folder => IO.FS.createDirAll folder
    match ← attempt folders with
    | .error fault => return some fault
    | .ok _ =>
      if ← place.isDir then return some .isDirectory
      match ← attempt (IO.FS.writeBinFile place ⟨bytes.toArray⟩) with
      | .error fault => return some fault
      | .ok _ => return none

/-- All that a stream still has to give. -/
partial def readAll (stream : IO.FS.Stream) (before : ByteArray) : IO ByteArray := do
  let piece ← stream.read 65536
  if piece.isEmpty then return before
  readAll stream (before ++ piece)

instance : Terminal IO where
  input := do
    let bytes ← readAll (← IO.getStdin) .empty
    return bytes.toList
  print line := do (← IO.getStdout).putStrLn line
  report line := do (← IO.getStderr).putStrLn line

end JsonWorkbench

/-- Run the command that the words stand for. -/
def main (words : List String) : IO UInt32 := do
  let outcome ← (JsonWorkbench.runWords words : IO JsonWorkbench.Outcome)
  return outcome.code.toUInt32
