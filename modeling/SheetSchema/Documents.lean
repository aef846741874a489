import SheetSchema.Files.Basic
import SheetSchema.Files.Path

/-!
# Documents

A set of documents is written as a whole: every document is staged before the first target is
replaced, and when a target cannot be replaced, those replaced before it get back what they held.
So either all documents are in their places afterwards, or all files are as they were.
-/

namespace SheetSchema.Documents

open Files

variable {m : Type → Type} {Staged : Type} [Monad m] [Files m Staged]

/-- Document that is staged. -/
structure Replacement (Staged : Type) where
  /-- Path of the target. -/
  target : String
  file : Staged
  /-- What the target held before, if it was a file. -/
  previous : Option ByteArray

/-- Stage a document for a directory. -/
def stageDocument (directory name text : String) : m (Option (Replacement Staged)) := do
  match ← stage directory text.toUTF8 with
  | none => return none
  | some file =>
    let target := Path.join directory name
    match ← look target with
    | .file (some contents) => return some ⟨target, file, some contents⟩
    | .file none =>
      discard file
      return none
    | _ => return some ⟨target, file, none⟩

/-- Stage documents for a directory: all of them or none. -/
def stageAll (directory : String) :
    List (String × String) → m (Option (List (Replacement Staged)))
  | [] => return some []
  | (name, text) :: rest => do
    match ← stageDocument directory name text with
    | none => return none
    | some replacement =>
      match ← stageAll directory rest with
      | none =>
        discard replacement.file
        return none
      | some replacements => return some (replacement :: replacements)

/-- Give a target back what it held before. -/
def restore (replacement : Replacement Staged) : m Unit :=
  match replacement.previous with
  | some contents => write replacement.target contents
  | none => remove replacement.target

/-- Replace targets: all of them or, if one cannot be replaced, none. The result names the target
that could not. -/
def replaceAll : List (Replacement Staged) → m (Option String)
  | [] => return none
  | replacement :: rest => do
    if ← replace replacement.file replacement.target then
      match ← replaceAll rest with
      | none => return none
      | some failed =>
        restore replacement
        return some failed
    else
      (replacement :: rest).forM fun replacement => discard replacement.file
      return some replacement.target

/-- Write named texts into a directory, which is created if it is missing. The result lists the
paths of the targets. -/
def writeAll (directory : String) (documents : List (String × String)) :
    ExceptT Error m (List String) := do
  if !(← (createDirectories directory : m Bool)) then throw .io
  match ← (stageAll directory documents : m (Option (List (Replacement Staged)))) with
  | none => throw .io
  | some replacements =>
    match ← (replaceAll replacements : m (Option String)) with
    | some failed => throw (.notPersisted failed)
    | none => return replacements.map Replacement.target

/-- Read the text of a document that must be there. -/
def read (directory name : String) : ExceptT Error m String := do
  match ← (look (Path.join directory name) : m Found) with
  | .missing => throw (.documentMissing name directory)
  | found => found.text

end SheetSchema.Documents
