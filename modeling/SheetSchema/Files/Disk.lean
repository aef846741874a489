import SheetSchema.Files.Basic
import SheetSchema.Files.Path

/-!
# Disks

A disk as a value: its directories, its files with their contents, and the files that are staged.
A staged file has no path yet, as nothing else knows the name it goes by. Which of the operations
still to come will fail is part of the disk, so that a statement about all disks covers all points
of failure; writing back and removing a file do not fail for such a reason.
-/

namespace SheetSchema

/-- Names from the root to a directory or file. -/
abbrev Place := List String

/-- Directories and files. -/
structure Disk where
  /-- Directories beside the root. -/
  directories : List Place := []
  files : List (Place × ByteArray) := []
  /-- Staged files with their numbers. -/
  staged : List (Nat × ByteArray) := []
  /-- The directory that paths count from. -/
  current : Place := []
  /-- Whether the next operations fail; later ones do not. -/
  faults : List Bool := []
  /-- What a reader of spreadsheets makes of the path and the contents of a file. -/
  spreadsheet? : String → ByteArray → Option Spreadsheet := fun _ _ => none

namespace Disk

/-! ## Places -/

/-- Bytes that a name may have. -/
def maximumName : Nat := 255

/-- Whether a text can be the name of a directory or file. -/
def isName (name : String) : Bool :=
  !name.toList.contains '\x00' && name.utf8ByteSize ≤ maximumName

/-- Whether a place is a directory. -/
def isDirectory (disk : Disk) (place : Place) : Bool :=
  place.isEmpty || disk.directories.contains place

/-- Contents of the file at a place. -/
def contents? (disk : Disk) (place : Place) : Option ByteArray := disk.files.lookup place

/-- The place where the parts of a path lead, starting at a place. All on the way but the last must
be directories. -/
def walk (disk : Disk) (place : Place) : List String → Option Place
  | [] => some place
  | part :: parts =>
    if !disk.isDirectory place then none
    else if part = "" ∨ part = "." then disk.walk place parts
    else if part = ".." then disk.walk place.dropLast parts
    else if isName part then disk.walk (place ++ [part]) parts
    else none

/-- The place that a path starts from. -/
def start (disk : Disk) (path : String) : Place :=
  if Path.isAbsolute path then [] else disk.current

/-- The place that a path leads to; it need not hold anything. -/
def locate (disk : Disk) (path : String) : Option Place :=
  if path = "" then none else disk.walk (disk.start path) (Path.parts path)

/-! ## Operations -/

/-- Put a file at a place. -/
def putFile (disk : Disk) (place : Place) (contents : ByteArray) : Disk :=
  { disk with files := (place, contents) :: disk.files.filter fun file => file.1 != place }

/-- Take the file at a place away. -/
def dropFile (disk : Disk) (place : Place) : Disk :=
  { disk with files := disk.files.filter fun file => file.1 != place }

/-- Whether the next operation fails. -/
def draw (disk : Disk) : Bool × Disk :=
  (disk.faults.headD false, { disk with faults := disk.faults.drop 1 })

/-- What a path leads to. -/
def look (disk : Disk) (path : String) : Found × Disk :=
  match disk.locate path with
  | none => (.missing, disk)
  | some place =>
    if disk.isDirectory place then (.directory, disk)
    else
      match disk.contents? place with
      | none => (.missing, disk)
      | some contents =>
        let (fails, disk) := disk.draw
        (.file (if fails then none else some contents), disk)

/-- Open the file of a spreadsheet program that a path leads to. -/
def openSpreadsheet (disk : Disk) (path : String) : Option Spreadsheet × Disk :=
  match disk.look path with
  | (.file (some contents), disk) => (disk.spreadsheet? path contents, disk)
  | (_, disk) => (none, disk)

/-- Create the directories on the way from a place along the parts of a path. -/
def createAlong (disk : Disk) (place : Place) : List String → Bool × Disk
  | [] => (true, disk)
  | part :: parts =>
    if part = "" ∨ part = "." then disk.createAlong place parts
    else if part = ".." then disk.createAlong place.dropLast parts
    else
      let next := place ++ [part]
      if disk.isDirectory next then disk.createAlong next parts
      else if isName part && (disk.contents? next).isNone then
        { disk with directories := disk.directories ++ [next] }.createAlong next parts
      else (false, disk)

/-- Create a directory and the directories that lead to it. -/
def createDirectories (disk : Disk) (path : String) : Bool × Disk :=
  let (fails, disk) := disk.draw
  if fails then (false, disk)
  else disk.createAlong (disk.start path) (Path.parts path)

/-- Whether a path leads to a directory; the empty path leads to the current one. -/
def hasDirectory (disk : Disk) (path : String) : Bool :=
  if path = "" then disk.isDirectory disk.current
  else (disk.locate path).any disk.isDirectory

/-- A number that no staged file has. -/
def nextNumber (disk : Disk) : Nat :=
  disk.staged.foldl (fun number file => max number (file.1 + 1)) 0

/-- Stage a file for a directory. -/
def stage (disk : Disk) (directory : String) (contents : ByteArray) : Option Nat × Disk :=
  let (fails, disk) := disk.draw
  if fails || !disk.hasDirectory directory then (none, disk)
  else
    let number := disk.nextNumber
    (some number, { disk with staged := (number, contents) :: disk.staged })

/-- Drop a staged file. -/
def discard (disk : Disk) (number : Nat) : Disk :=
  { disk with staged := disk.staged.filter fun file => file.1 != number }

/-- Put a staged file in the place of a target, which must not be a directory. -/
def replace (disk : Disk) (number : Nat) (target : String) : Bool × Disk :=
  let (fails, disk) := disk.draw
  match disk.staged.lookup number, disk.locate target with
  | some contents, some place =>
    if fails || disk.isDirectory place then (false, disk)
    else (true, (disk.discard number).putFile place contents)
  | _, _ => (false, disk)

/-- Write a file, unless its path leads nowhere or to a directory. -/
def write (disk : Disk) (path : String) (contents : ByteArray) : Disk :=
  match disk.locate path with
  | some place => if disk.isDirectory place then disk else disk.putFile place contents
  | none => disk

/-- Remove the file that a path leads to. -/
def remove (disk : Disk) (path : String) : Disk :=
  match disk.locate path with
  | some place => disk.dropFile place
  | none => disk

instance : Files (StateM Disk) Nat where
  look path disk := disk.look path
  createDirectories path disk := disk.createDirectories path
  stage directory contents disk := disk.stage directory contents
  discard number disk := ((), disk.discard number)
  replace number target disk := disk.replace number target
  write path contents disk := ((), disk.write path contents)
  remove path disk := ((), disk.remove path)
  openSpreadsheet path disk := disk.openSpreadsheet path

end Disk

end SheetSchema
