import SheetSchema.Json.Basic
import SheetSchema.Yaml.Plain
import SheetSchema.Yaml.Text

/-!
# Printing YAML

A tree in block layout: one entry or item a line, maps indented by two columns, lists not indented
under their names. A text is written plain if that reads as the same text; otherwise it stands in
single quotes or, if it holds characters or blanks that do not survive there, in double quotes. A
text of several lines is written as a literal block where its blanks allow that.
-/

namespace SheetSchema.Yaml

/-! ## Styles of texts -/

/-- How a text is written. -/
inductive Style where
  | plain
  | singleQuoted
  | doubleQuoted
  | literal
deriving DecidableEq

/-- Words that some readers take for truth values. -/
def truthWords : List String :=
  ["y", "Y", "yes", "Yes", "YES", "n", "N", "no", "No", "NO", "true", "True", "TRUE", "false",
    "False", "FALSE", "on", "On", "ON", "off", "Off", "OFF"]

/-- Characters that may be written without an escape. -/
def isPrintable (c : Char) : Bool :=
  let code := c.toNat
  code == 0x0A || (0x20 ≤ code && code ≤ 0x7E)
    || (0xA0 ≤ code && code ≤ 0xFFFD && c != byteOrderMark) || 0x10000 ≤ code

/-- Characters that do not start a plain text. -/
def indicators : List Char :=
  ['#', ',', '[', ']', '\x7b', '\x7d', '&', '*', '!', '|', '>', '\x27', '"', '%', '@', '\x60']

/-- Whether a space or the end comes next. -/
def atSpace : List Char → Bool
  | [] => true
  | c :: _ => c == ' '

/-- Whether a text starts like something else than a plain text. -/
def startsOtherwise : List Char → Bool
  | [] => false
  | '-' :: '-' :: '-' :: _ | '.' :: '.' :: '.' :: _ => true
  | c :: rest => indicators.contains c || (['?', ':', '-'].contains c && atSpace rest)

/-- Whether a plain text would end at a colon or a comment. -/
def breaksOff (afterSpace : Bool) : List Char → Bool
  | [] => false
  | c :: rest =>
    (c == ':' && atSpace rest) || (c == '#' && afterSpace) || breaksOff (c == ' ') rest

/-- Whether a character of the one kind comes right before one of the other. -/
def hasPair (first second : Char → Bool) : List Char → Bool
  | a :: b :: rest => (first a && second b) || hasPair first second (b :: rest)
  | _ => false

/-- Whether a text is without characters that need an escape and spaces that a break would
swallow. -/
def isClean (chars : List Char) : Bool :=
  chars.all isPrintable && !hasPair (· == ' ') isBreak chars

/-- Whether a text can stand without quotes. -/
def fitsPlain (chars : List Char) : Bool :=
  isClean chars && !chars.any isBreak && !startsOtherwise chars && !breaksOff true chars
    && chars.head? != some ' ' && chars.getLast? != some ' '

/-- Whether a text can stand in single quotes. -/
def fitsSingleQuotes (chars : List Char) : Bool :=
  isClean chars && !hasPair isBreak (· == ' ') chars

/-- Whether a text can stand as a literal block. -/
def fitsLiteral (chars : List Char) : Bool :=
  isClean chars && chars.getLast? != some ' '

/-- The style of a text in one line. -/
def lineStyle (text : String) : Style :=
  let chars := text.toList
  let spells := truthWords.contains text || isZeroLed chars || !isPlainText text
  if !spells && fitsPlain chars then .plain
  else if fitsSingleQuotes chars then .singleQuoted
  else .doubleQuoted

/-- The style of a text. -/
def style (text : String) : Style :=
  let chars := text.toList
  if chars.contains '\n' then if fitsLiteral chars then .literal else .doubleQuoted
  else lineStyle text

/-- The style of a name, which stays in one line. -/
def nameStyle (name : String) : Style :=
  if name.toList.any isBreak then .doubleQuoted else lineStyle name

/-! ## Texts -/

/-- Spaces of an indentation. -/
def spaces (indent : Nat) : List Char := List.replicate indent ' '

/-- A number in a row of hexadecimal digits in upper case. -/
def hexDigits : Nat → Nat → List Char
  | 0, _ => []
  | width + 1, n => hexDigits width (n / 16) ++ [(Nat.digitChar (n % 16)).toUpper]

/-- One character inside double quotes. -/
def escapeChar (c : Char) : List Char :=
  match c with
  | '"' => ['\\', '"']
  | '\\' => ['\\', '\\']
  | '\x00' => ['\\', '0']
  | '\x07' => ['\\', 'a']
  | '\x08' => ['\\', 'b']
  | '\t' => ['\\', 't']
  | '\n' => ['\\', 'n']
  | '\x0b' => ['\\', 'v']
  | '\x0c' => ['\\', 'f']
  | '\r' => ['\\', 'r']
  | '\x1b' => ['\\', 'e']
  | '\u0085' => ['\\', 'N']
  | '\u2028' => ['\\', 'L']
  | '\u2029' => ['\\', 'P']
  | c =>
    if isPrintable c then [c]
    else if c.toNat ≤ 0xFF then '\\' :: 'x' :: hexDigits 2 c.toNat
    else '\\' :: 'u' :: hexDigits 4 c.toNat

/-- A text in double quotes. -/
def doubleQuote (chars : List Char) : List Char := '"' :: (chars.flatMap escapeChar ++ ['"'])

/-- The inside of single quotes. A quote is written twice, and what follows a break is indented. -/
def singleQuotedInside (indent : Nat) (afterBreak : Bool) : List Char → List Char
  | [] => if afterBreak then spaces indent else []
  | c :: rest =>
    if isBreak c then c :: singleQuotedInside indent true rest
    else
      (if afterBreak then spaces indent else [])
        ++ ((if c == '\x27' then ['\x27', '\x27'] else [c]) ++ singleQuotedInside indent false rest)

/-- A text in single quotes. -/
def singleQuote (indent : Nat) (chars : List Char) : List Char :=
  '\x27' :: (singleQuotedInside indent false chars ++ ['\x27'])

/-- The lines of a literal block. -/
def literalLines (indent : Nat) (afterBreak : Bool) : List Char → List Char
  | [] => if afterBreak then [] else ['\n']
  | c :: rest =>
    if isBreak c then c :: literalLines indent true rest
    else (if afterBreak then spaces indent else []) ++ (c :: literalLines indent false rest)

/-- What the first line of a literal block says about its indentation, which blanks at the start
would hide, and about the breaks at its end. -/
def literalHeader (chars : List Char) : List Char :=
  let startsBlank :=
    match chars with
    | c :: _ => c == ' ' || isBreak c
    | [] => false
  let ending :=
    match chars.reverse with
    | a :: b :: _ => if !isBreak a then ['-'] else if isBreak b then ['+'] else []
    | [a] => if isBreak a then ['+'] else ['-']
    | [] => ['-']
  '|' :: ((if startsBlank then ['2'] else []) ++ ending)

/-- A text up to the end of its last line; further lines are indented. -/
def textLines (indent : Nat) (text : String) : List Char :=
  let chars := text.toList
  match style text with
  | .plain => chars ++ ['\n']
  | .singleQuoted => singleQuote indent chars ++ ['\n']
  | .doubleQuoted => doubleQuote chars ++ ['\n']
  | .literal => literalHeader chars ++ ('\n' :: literalLines indent true chars)

/-- The name of an entry. -/
def nameText (name : String) : List Char :=
  match nameStyle name with
  | .plain => name.toList
  | .singleQuoted => singleQuote 0 name.toList
  | _ => doubleQuote name.toList

/-! ## Trees -/

/-- Where a value stands. -/
inductive Position where
  /-- At the column of its own. -/
  | inLine
  /-- After the name of an entry at the column. -/
  | afterName
deriving DecidableEq

namespace Position

/-- What stands before a scalar or an empty collection. -/
def gap : Position → List Char
  | inLine => []
  | afterName => [' ']

/-- What stands before a collection at a column. -/
def newline (column : Nat) : Position → List Char
  | inLine => []
  | afterName => '\n' :: spaces column

/-- Indentation of the further lines of a text. -/
def textIndent (column : Nat) : Position → Nat
  | inLine => max column 2
  | afterName => column + 2

/-- The column of the entries of a map. -/
def entryColumn (column : Nat) : Position → Nat
  | inLine => column
  | afterName => column + 2

end Position

mutual

/-- A value up to the end of its last line. -/
def layout (position : Position) (column : Nat) : Json → List Char
  | .null => position.gap ++ "null\n".toList
  | .bool true => position.gap ++ "true\n".toList
  | .bool false => position.gap ++ "false\n".toList
  | .number literal => position.gap ++ (literal.toList ++ ['\n'])
  | .string text => position.gap ++ textLines (position.textIndent column) text
  | .array [] => position.gap ++ ['[', ']', '\n']
  | .array (item :: items) =>
    position.newline column
      ++ ('-' :: ' ' :: (layout .inLine (column + 2) item ++ layoutItems column items))
  | .object [] => position.gap ++ ['\x7b', '\x7d', '\n']
  | .object ((name, value) :: members) =>
    let column := position.entryColumn column
    position.newline column
      ++ (nameText name
        ++ (':' :: (layout .afterName column value ++ layoutMembers column members)))
  | .unpaired => []

/-- The items of a list after the first. -/
def layoutItems (column : Nat) : List Json → List Char
  | [] => []
  | item :: items =>
    spaces column
      ++ ('-' :: ' ' :: (layout .inLine (column + 2) item ++ layoutItems column items))

/-- The entries of a map after the first. -/
def layoutMembers (column : Nat) : List (String × Json) → List Char
  | [] => []
  | (name, value) :: members =>
    spaces column
      ++ (nameText name
        ++ (':' :: (layout .afterName column value ++ layoutMembers column members)))

end

/-- The YAML text of a tree. -/
def print (json : Json) : String := String.ofList (layout .inLine 0 json)

end SheetSchema.Yaml
