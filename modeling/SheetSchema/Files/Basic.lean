import SheetSchema.Workbook.Spreadsheet

/-!
# Files

The operations on files that reading and writing documents need. A new file is staged first, where
no path leads to it, and then takes the place of whatever file its target is. An operation tells
whether it succeeded; one that did not leaves all files as they were.
-/

namespace SheetSchema

/-- What a path leads to. -/
inductive Found where
  | missing
  | directory
  /-- A file with its contents, unless they cannot be read. -/
  | file (contents : Option ByteArray)

/-- The text of a file that was found. -/
def Found.text : Found → Except Error String
  | file (some contents) =>
    match String.fromUTF8? contents with
    | some text => .ok text
    | none => .error .io
  | _ => .error .io

/-- Operations on files, in the monad `m`. -/
class Files (m : Type → Type) (Staged : outParam Type) where
  /-- Look at what a path leads to. -/
  look : String → m Found
  /-- Create a directory and the directories that lead to it, as far as they are missing. -/
  createDirectories : String → m Bool
  /-- Stage a file with the given contents for a directory. -/
  stage : String → ByteArray → m (Option Staged)
  /-- Drop a staged file. -/
  discard : Staged → m Unit
  /-- Put a staged file in the place of a target. -/
  replace : Staged → String → m Bool
  /-- Write a file. -/
  write : String → ByteArray → m Unit
  /-- Remove a file. -/
  remove : String → m Unit
  /-- Open the file of a spreadsheet program. -/
  openSpreadsheet : String → m (Option Spreadsheet)

/-- Read the text of a file. -/
def Files.readText {m : Type → Type} {Staged : Type} [Monad m] [Files m Staged] (path : String) :
    ExceptT Error m String := do
  (← (look path : m Found)).text

end SheetSchema
