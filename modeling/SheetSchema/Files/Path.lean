/-!
# Paths

A path is a text whose parts are separated by slashes; one that starts with a slash counts from the
root. What a path leads to depends on the directories there are, so nothing is shortened here: a
path is shown as it was given.
-/

namespace SheetSchema.Path

/-- Split at every slash. -/
def splitSlash : List Char → List (List Char)
  | [] => [[]]
  | c :: rest =>
    if c == '/' then [] :: splitSlash rest
    else
      match splitSlash rest with
      | [] => [[c]]
      | part :: parts => (c :: part) :: parts

/-- Parts of a path. -/
def parts (path : String) : List String := (splitSlash path.toList).map String.ofList

/-- Whether a path counts from the root. -/
def isAbsolute (path : String) : Bool := path.toList.head? == some '/'

/-- The path of a name in a directory. A name that counts from the root stays as it is, and so does
one in a directory without a name. -/
def join (directory name : String) : String :=
  if isAbsolute name || directory.isEmpty || directory.toList.getLast? == some '/' then
    if isAbsolute name then name else directory ++ name
  else directory ++ "/" ++ name

/-- The last part of a path that moves, unless it moves up. -/
def fileName? (path : String) : Option String :=
  ((parts path).filter fun part => part != "" && part != ".").getLast?.filter (· != "..")

/-- What follows the last point of a file name; a point at its start does not count. -/
def extension? (path : String) : Option String :=
  (fileName? path).bind fun name =>
    match name.toList.reverse.span (· != '.') with
    | (reversed, _ :: _ :: _) => some (String.ofList reversed.reverse)
    | _ => none

end SheetSchema.Path
