import SheetSchema.Json.Basic

/-!
# JSON tokens

A JSON text is cut into brackets, separators, literals, numbers and strings; blanks between them
are skipped. The grammar is the strict one: no leading zeros, no raw control characters in
strings, and nothing but space, tab, line feed and carriage return is blank.
-/

namespace SheetSchema.Json

/-- Lexical unit of a JSON text. -/
inductive Token where
  | openArray
  | closeArray
  | openObject
  | closeObject
  | colon
  | comma
  | null
  | bool (value : Bool)
  | number (literal : String)
  /-- A string; `none` if it escapes half of a surrogate pair. -/
  | string (value : Option String)
deriving DecidableEq

namespace Token

/-- Blank between tokens. -/
def isBlank (c : Char) : Bool := c == ' ' || c == '\t' || c == '\n' || c == '\r'

/-! ## Strings -/

/-- What a string holds at one place: a character, or an escaped 16-bit unit. -/
inductive Piece where
  | char (c : Char)
  | unit (code : Nat)
deriving DecidableEq

/-- Value of a hexadecimal digit. -/
def hexValue? (c : Char) : Option Nat :=
  if c.isDigit then some (c.toNat - '0'.toNat)
  else if 'a' ≤ c ∧ c ≤ 'f' then some (c.toNat - 'a'.toNat + 10)
  else if 'A' ≤ c ∧ c ≤ 'F' then some (c.toNat - 'A'.toNat + 10)
  else none

/-- Value of four hexadecimal digits. -/
def hexUnit? (a b c d : Char) : Option Nat := do
  let high := (← hexValue? a) * 16 + (← hexValue? b)
  let low := (← hexValue? c) * 16 + (← hexValue? d)
  some (high * 256 + low)

/-- The character that a letter after a backslash stands for. -/
def escaped? : Char → Option Char
  | '"' => some '"'
  | '\\' => some '\\'
  | '/' => some '/'
  | 'b' => some '\x08'
  | 'f' => some '\x0c'
  | 'n' => some '\n'
  | 'r' => some '\r'
  | 't' => some '\t'
  | _ => none

/-- Read a string after its opening quote, up to and with the closing one. The pieces come out
last first, on top of `pieces`. -/
def stringPieces (pieces : List Piece) : List Char → Option (List Piece × List Char)
  | [] => none
  | '"' :: rest => some (pieces, rest)
  | '\\' :: 'u' :: a :: b :: c :: d :: rest =>
    match hexUnit? a b c d with
    | some code => stringPieces (.unit code :: pieces) rest
    | none => none
  | '\\' :: c :: rest =>
    match escaped? c with
    | some c' => stringPieces (.char c' :: pieces) rest
    | none => none
  | c :: rest =>
    if c.toNat < 0x20 || c == '\\' then none else stringPieces (.char c :: pieces) rest

/-- First half of a surrogate pair. -/
def isHighSurrogate (code : Nat) : Bool := 0xD800 ≤ code && code < 0xDC00

/-- Second half of a surrogate pair. -/
def isLowSurrogate (code : Nat) : Bool := 0xDC00 ≤ code && code < 0xE000

/-- The text of pieces given last first, in front of `text`: surrogate halves must come in
pairs. -/
def joinPieces (text : List Char) : List Piece → Option (List Char)
  | [] => some text
  | .char c :: rest => joinPieces (c :: text) rest
  | .unit low :: .unit high :: rest =>
    if isLowSurrogate low then
      if isHighSurrogate high then
        joinPieces (Char.ofNat (0x10000 + (high - 0xD800) * 0x400 + (low - 0xDC00)) :: text) rest
      else none
    else if isHighSurrogate low then none
    else joinPieces (Char.ofNat low :: text) (.unit high :: rest)
  | .unit code :: rest =>
    if isLowSurrogate code || isHighSurrogate code then none
    else joinPieces (Char.ofNat code :: text) rest

/-! ## Numbers -/

/-- Digits at the start of a text, at least one. -/
def digits? (chars : List Char) : Option (List Char × List Char) :=
  match chars.span Char.isDigit with
  | ([], _) => none
  | split => some split

/-- The whole part of a number: zero alone, or digits that do not start with zero. -/
def wholePart? : List Char → Option (List Char × List Char)
  | '0' :: rest => some (['0'], rest)
  | chars => digits? chars

/-- The fraction of a number, if there is one. -/
def fractionPart? : List Char → Option (List Char × List Char)
  | '.' :: rest => (digits? rest).map fun (digits, rest) => ('.' :: digits, rest)
  | chars => some ([], chars)

/-- The sign of an exponent. -/
def exponentSign : List Char → List Char × List Char
  | '+' :: rest => (['+'], rest)
  | '-' :: rest => (['-'], rest)
  | chars => ([], chars)

/-- The exponent of a number, if there is one. -/
def exponentPart? : List Char → Option (List Char × List Char)
  | [] => some ([], [])
  | c :: rest =>
    if c == 'e' || c == 'E' then
      let (sign, rest) := exponentSign rest
      (digits? rest).map fun (digits, rest) => (c :: (sign ++ digits), rest)
    else some ([], c :: rest)

/-- A number at the start of a text. -/
def number? (chars : List Char) : Option (List Char × List Char) := do
  let (sign, rest) := match chars with
    | '-' :: rest => (['-'], rest)
    | chars => ([], chars)
  let (whole, rest) ← wholePart? rest
  let (fraction, rest) ← fractionPart? rest
  let (exponent, rest) ← exponentPart? rest
  some (sign ++ whole ++ fraction ++ exponent, rest)

/-! ## Texts -/

/-- The token at the start of a text that starts with no blank. -/
def next? : List Char → Option (Token × List Char)
  | '[' :: rest => some (openArray, rest)
  | ']' :: rest => some (closeArray, rest)
  | '\x7b' :: rest => some (openObject, rest)
  | '\x7d' :: rest => some (closeObject, rest)
  | ':' :: rest => some (colon, rest)
  | ',' :: rest => some (comma, rest)
  | 'n' :: 'u' :: 'l' :: 'l' :: rest => some (null, rest)
  | 't' :: 'r' :: 'u' :: 'e' :: rest => some (bool true, rest)
  | 'f' :: 'a' :: 'l' :: 's' :: 'e' :: rest => some (bool false, rest)
  | '"' :: rest =>
    (stringPieces [] rest).map fun (pieces, rest) =>
      (string ((joinPieces [] pieces).map String.ofList), rest)
  | chars => (number? chars).map fun (literal, rest) => (number (String.ofList literal), rest)

/-- Cut a text into tokens, which come out last first on top of `tokens`. The text has at most
`fuel` characters. -/
def scan (tokens : List Token) : Nat → List Char → Option (List Token)
  | _, [] => some tokens
  | 0, _ :: _ => none
  | fuel + 1, c :: rest =>
    if isBlank c then scan tokens fuel rest
    else
      match next? (c :: rest) with
      | none => none
      | some (token, rest) => scan (token :: tokens) fuel rest

/-- The tokens of a text. -/
def ofText? (text : String) : Option (List Token) :=
  let chars := text.toList
  (scan [] chars.length chars).map List.reverse

end Token

end SheetSchema.Json
