import SheetSchema.Cell.Coercion
import SheetSchema.Json.Token

/-!
# Meaning of scalars

What a scalar stands for where any value may stand. A plain scalar without a tag is null, a truth
value, an integer or a float if it is spelled like one, and text otherwise; a tag may ask for one
of these. Integers may be written to the bases 2, 8, 10 and 16. A row of digits that starts with
zero is text, and so is a float that is not finite, but for its own spellings, which are read as
null. Integers too large for a cell are an error.
-/

namespace SheetSchema.Yaml

/-! ## Spellings -/

/-- Whether a scalar spells null. -/
def isNull (text : String) : Bool := ["null", "Null", "NULL", "~"].contains text

/-- The truth value that a scalar spells. -/
def bool? (text : String) : Option Bool :=
  if ["true", "True", "TRUE"].contains text then some true
  else if ["false", "False", "FALSE"].contains text then some false
  else none

/-- Drop one sign. -/
def dropSign : List Char → List Char
  | '+' :: rest | '-' :: rest => rest
  | chars => chars

/-- More than one digit, the first of them zero. -/
def isZeroLed (chars : List Char) : Bool :=
  match dropSign chars with
  | '0' :: rest => !rest.isEmpty && rest.all Char.isDigit
  | _ => false

/-- Value of a digit of a base up to 16. -/
def digit? (base : Nat) (c : Char) : Option Nat :=
  (Json.Token.hexValue? c).filter fun value => value < base

/-- Value of a row of digits, at least one. -/
def magnitude? (base : Nat) (digits : List Char) : Option Nat :=
  if digits.isEmpty then none
  else (digits.mapM (digit? base)).map fun values =>
    values.foldl (fun value digit => base * value + digit) 0

/-- The magnitude of an integer without its sign. -/
def unsigned? (zeroLed : Bool) : List Char → Option Nat
  | '0' :: 'x' :: digits => magnitude? 16 digits
  | '0' :: 'o' :: digits => magnitude? 8 digits
  | '0' :: 'b' :: digits => magnitude? 2 digits
  | digits => if zeroLed then none else magnitude? 10 digits

/-- Magnitude of the least integer that fits 128 bits with a sign, `2 ^ 127`. -/
def negativeSpan : Nat := 0x80000000000000000000000000000000

/-- How many natural numbers fit 128 bits, `2 ^ 128`. -/
def naturalSpan : Nat := 0x100000000000000000000000000000000

/-- The integer that a scalar spells, if it has at most 128 bits. -/
def integer? (chars : List Char) : Option Int :=
  let zeroLed := isZeroLed chars
  match chars with
  | '-' :: rest =>
    (unsigned? zeroLed rest).bind fun n => if n ≤ negativeSpan then some (-(n : Int)) else none
  | '+' :: rest | rest =>
    (unsigned? zeroLed rest).bind fun n => if n < naturalSpan then some (n : Int) else none

/-- Spellings of infinity without its sign. -/
def infinitySpellings : List String := [".inf", ".Inf", ".INF"]

/-- Spellings of the value that is not a number. -/
def nanSpellings : List String := [".nan", ".NaN", ".NAN"]

/-- The float that a scalar spells. -/
def float? (text : String) : Option Binary64 :=
  let chars := text.toList
  let negative := chars.head? == some '-'
  let doubled := chars.head? == some '+' &&
    ((chars.drop 1).head? == some '+' || (chars.drop 1).head? == some '-')
  if doubled then none
  else if infinitySpellings.contains (String.ofList (dropSign chars)) then
    some (.infinity negative)
  else if nanSpellings.contains text then some (.nan false)
  else (Binary64.read? text).filter Binary64.isFinite

/-! ## Values -/

/-- A float as a cell; what is not finite has none and is null. -/
def cellOfFloat (x : Binary64) : Cell :=
  match Cell.Number.ofReal? x with
  | some number => .number number
  | none => .null

/-- The value of a plain scalar without a tag. -/
def plainCell? (text : String) : Option Cell :=
  let chars := text.toList
  if text.isEmpty || isNull text then some .null
  else
    match bool? text with
    | some value => some (.bool value)
    | none =>
      match integer? chars with
      | some n => (Cell.Number.ofInt? n).map Cell.number
      | none =>
        match (float? text).filter fun _ => !isZeroLed chars with
        | some x => some (cellOfFloat x)
        | none => some (.text text)

/-- Tags that ask for a kind of value. -/
def coreTag (name : String) : String := "tag:yaml.org,2002:" ++ name

/-- Whether a tag is of the document's own making. -/
def isLocalTag (tag : String) : Bool := tag.toList.head? == some '!'

/-- The value of a scalar. -/
def scalarCell? (tag : Option String) (text : String) (plain : Bool) : Option Cell :=
  match tag with
  | none => if plain then plainCell? text else some (.text text)
  | some tag =>
    if isLocalTag tag then none
    else if tag = coreTag "bool" then (bool? text).map Cell.bool
    else if tag = coreTag "int" then
      ((integer? text.toList).bind Cell.Number.ofInt?).map Cell.number
    else if tag = coreTag "float" then (float? text).map cellOfFloat
    else if tag = coreTag "null" then if isNull text then some .null else none
    else some (.text text)

/-- Whether a plain scalar with this text would be read as text. -/
def isPlainText (text : String) : Bool :=
  match plainCell? text with
  | some (.text _) => true
  | _ => false

end SheetSchema.Yaml
