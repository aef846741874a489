/-!
# Blank text

The White_Space property of Unicode, and trimming by it. A text is blank when nothing is left of
it after trimming.
-/

namespace SheetSchema.Text

/-- The White_Space property of Unicode. -/
def isBlank (c : Char) : Bool :=
  let code := c.toNat
  (9 ≤ code && code ≤ 13) || code == 0x20 || code == 0x85 || code == 0xA0 || code == 0x1680 ||
    (0x2000 ≤ code && code ≤ 0x200A) || code == 0x2028 || code == 0x2029 || code == 0x202F ||
    code == 0x205F || code == 0x3000

/-- Drop the characters that satisfy a test from the end of a list. -/
def dropEndWhile (test : Char → Bool) (chars : List Char) : List Char :=
  (chars.reverse.dropWhile test).reverse

/-- Drop blank characters from both ends of a list. -/
def trimChars (chars : List Char) : List Char :=
  dropEndWhile isBlank (chars.dropWhile isBlank)

/-- Drop blank characters from both ends. -/
def trim (text : String) : String := String.ofList (trimChars text.toList)

/-- The trimmed text, unless nothing is left of it. -/
def trimmed? (text : String) : Option String :=
  if trim text = "" then none else some (trim text)

/-- Whether two texts agree up to the case of ASCII letters. -/
def sameIgnoringCase (first second : String) : Bool := first.toLower == second.toLower

end SheetSchema.Text
