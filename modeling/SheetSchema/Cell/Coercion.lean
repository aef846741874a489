import SheetSchema.Cell.Basic
import SheetSchema.Text.Blank

/-!
# Reading cells

How a cell is understood where a text, a truth value or a number is expected. Text in cells is
trimmed first, and a reading that fails gives back the offending text.
-/

namespace SheetSchema.Cell

/-- Nothing there: null or blank text. -/
def isBlank : Cell → Bool
  | null => true
  | text value => Text.trim value == ""
  | _ => false

/-- Text of a scalar; blank cells, lists and records have none. -/
def text? : Cell → Option String
  | text value => Text.trimmed? value
  | number value => some value.toText
  | bool true => some "true"
  | bool false => some "false"
  | null | list _ | record _ => none

/-- Words that mean yes in a cell. -/
def yesWords : List String := ["true", "yes", "y", "x", "1"]

/-- Whether a cell is set: true, a number other than zero, or a word for yes in any case. -/
def meansYes : Cell → Bool
  | bool value => value
  | number value => !value.isZero
  | text value => yesWords.contains (Text.trim value).toLower
  | null | list _ | record _ => false

/-- The least integer that cells can express, `-2 ^ 127`. -/
def leastInteger : Int := -0x80000000000000000000000000000000

/-- The greatest integer that cells can express, `2 ^ 127 - 1`. -/
def greatestInteger : Int := 0x7FFFFFFFFFFFFFFFFFFFFFFFFFFFFFFF

/-- The nearest integer that cells can express. -/
def clampInteger (n : Int) : Int := max leastInteger (min greatestInteger n)

/-- A whole double as an integer. -/
def wholeInteger? (x : Binary64) : Option Int :=
  if x.isFinite && x.isWhole then some (clampInteger x.truncate) else none

/-- Read a text as an integer: digits with a sign, or a whole decimal. -/
def integerOfText? (value : String) : Option Int :=
  match Decimal.readInteger? value.toList with
  | some n =>
    if leastInteger ≤ n ∧ n ≤ greatestInteger then some n
    else (Binary64.read? value).bind wholeInteger?
  | none => (Binary64.read? value).bind wholeInteger?

/-- Read a cell as an integer. -/
def integer : Cell → Except String Int
  | number (.natural value _) => .ok value
  | number (.negative magnitude _ _) => .ok (-magnitude)
  | number (.real value finite) =>
    match wholeInteger? value with
    | some n => .ok n
    | none => .error (Number.real value finite).toText
  | text value =>
    match integerOfText? (Text.trim value) with
    | some n => .ok n
    | none => .error (Text.trim value)
  | other => .error other.toText

/-- Read a cell as a double. -/
def real : Cell → Except String Binary64
  | number value => .ok value.toReal
  | text value =>
    match Binary64.read? (Text.trim value) with
    | some x => .ok x
    | none => .error (Text.trim value)
  | other => .error other.toText

end SheetSchema.Cell
