import SheetSchema.CommandLine.Run

/-!
# The program

The files of the operating system, and the entry point.
-/

namespace SheetSchema.Main

/-- Whether an action ends without an error. -/
def succeeds (action : IO Unit) : IO Bool := do
  try
    action
    return true
  catch _ => return false

/-- Look at what a path leads to. A directory can be opened but not read. -/
def look (path : String) : IO Found := do
  let opened ←
    try
      pure (Except.ok (← IO.FS.Handle.mk path .read))
    catch
      | .noFileOrDirectory .. | .inappropriateType .. => pure (Except.error Found.missing)
      | _ => pure (Except.error (Found.file none))
  match opened with
  | .error found => return found
  | .ok handle =>
    try
      return .file (some (← handle.readBinToEnd))
    catch
      | .inappropriateType .. => return .directory
      | _ => return .file none

/-- Letters of the names of staged files. -/
def letters : List Char := "abcdefghijklmnopqrstuvwxyz0123456789".toList

/-- A random letter. -/
def randomLetter : IO Char := do
  return letters.getD (← IO.rand 0 (letters.length - 1)) 'a'

/-- Stage a file in a directory under a random name that is not taken; give up after a number of
names. -/
def stage (directory : String) (contents : ByteArray) : Nat → IO (Option String)
  | 0 => return none
  | attempts + 1 => do
    let name ← (List.range 6).mapM fun _ => randomLetter
    let path := Path.join directory (".tmp" ++ String.ofList name)
    let created ←
      try
        pure (some (← IO.FS.Handle.mk path .writeNew))
      catch
        | .alreadyExists .. => pure none
        | _ => return none
    match created with
    | none => stage directory contents attempts
    | some handle =>
      if ← succeeds (handle.write contents *> handle.flush) then return some path
      else
        let _ ← succeeds (IO.FS.removeFile path)
        return none

instance : Files IO String where
  look := look
  createDirectories path :=
    if path = "" then return true else succeeds (IO.FS.createDirAll path)
  stage directory contents := stage directory contents 64
  discard path := do let _ ← succeeds (IO.FS.removeFile path)
  replace staged target := succeeds (IO.FS.rename staged target)
  write path contents := do let _ ← succeeds (IO.FS.writeBinFile path contents)
  remove path := do let _ ← succeeds (IO.FS.removeFile path)
  -- no reader of spreadsheets is at hand
  openSpreadsheet _ := return none

end SheetSchema.Main

open SheetSchema in
/-- Run the program; results go to the standard output, findings and errors to the other one. -/
def main (arguments : List String) : IO UInt32 := do
  let modulePath ← IO.getEnv Names.modulePathVariable
  let outcome ← CommandLine.execute arguments modulePath
  for warning in outcome.warnings do
    IO.eprintln ("WARN:" ++ warning.message)
  if let some error := outcome.error then
    IO.eprintln ("ERROR:" ++ error.message)
  IO.print outcome.output
  return outcome.code.toUInt32
