import SheetSchema.Text.LowerCase

/-!
# Snake case

A name is cut into words at every character that is neither letter nor digit, between a
lower-case and an upper-case letter, and before the last letter of an upper-case run that a
lower-case letter follows. The words are lower-cased and joined by underscores.
-/

namespace SheetSchema.Text

/-- Case of the letters seen last in the current word; digits do not change it. -/
inductive WordCase where
  | unknown
  | lower
  | upper
deriving DecidableEq

/-- The case after one more character of the same word. -/
def WordCase.next (current : WordCase) (c : Char) : WordCase :=
  if isLowercase c then .lower else if isUppercase c then .upper else current

/-- Cut a run of letters and digits into words. `word` is the current word, newest character
first, and `current` the case of its letters. -/
def splitRun (current : WordCase) (word : List Char) : List Char → List (List Char)
  | [] => if word.isEmpty then [] else [word.reverse]
  | [c] => [(c :: word).reverse]
  | c :: c' :: rest =>
    if current.next c = .lower ∧ isUppercase c' then
      (c :: word).reverse :: splitRun .unknown [] (c' :: rest)
    else if current = .upper ∧ isUppercase c ∧ isLowercase c' then
      word.reverse :: splitRun .unknown [c] (c' :: rest)
    else
      splitRun (current.next c) (c :: word) (c' :: rest)

/-- Maximal runs of letters and digits. `run` is the current run, newest character first. -/
def alphanumericParts (run : List Char) : List Char → List (List Char)
  | [] => [run.reverse]
  | c :: rest =>
    if isAlphanumeric c then alphanumericParts (c :: run) rest
    else run.reverse :: alphanumericParts [] rest

/-- Words of a name. -/
def snakeWords (name : List Char) : List (List Char) :=
  (alphanumericParts [] name).flatMap (splitRun .unknown [])

/-- Lower-case one word; a capital sigma at its end takes the final form. -/
def lowerWord : List Char → List Char
  | [] => []
  | [c] => if c = 'Σ' then ['ς'] else lowerChar c
  | c :: rest => lowerChar c ++ lowerWord rest

/-- Lower-case words joined by underscores. -/
def snakeCase (name : String) : String :=
  "_".intercalate ((snakeWords name.toList).map fun word => String.ofList (lowerWord word))

end SheetSchema.Text
