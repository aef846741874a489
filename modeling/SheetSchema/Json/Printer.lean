import SheetSchema.Json.Basic

/-!
# Printing JSON

Two layouts: compact, without any space, and the indented one of documents, two spaces a level
with one item or member a line. Strings escape the quote, the backslash and control characters and
leave everything else as it is.
-/

namespace SheetSchema.Json

/-- A hexadecimal digit in lower case. -/
def hexDigit (n : Nat) : Char := Nat.digitChar (n % 16)

/-- One character inside quotes. -/
def escapeChar (c : Char) : List Char :=
  match c with
  | '"' => ['\\', '"']
  | '\\' => ['\\', '\\']
  | '\n' => ['\\', 'n']
  | '\r' => ['\\', 'r']
  | '\t' => ['\\', 't']
  | '\x08' => ['\\', 'b']
  | '\x0c' => ['\\', 'f']
  | c =>
    if c.toNat < 0x20 then ['\\', 'u', '0', '0', hexDigit (c.toNat / 16), hexDigit c.toNat]
    else [c]

/-- A quoted string. -/
def quote (text : String) : List Char :=
  '"' :: (text.toList.flatMap escapeChar ++ ['"'])

/-- Line break and indentation before an item at a depth. -/
def newline (depth : Nat) : List Char := '\n' :: List.replicate (2 * depth) ' '

mutual

/-- Indented layout of a value whose first character stands at the given depth. -/
def pretty (depth : Nat) : Json → List Char
  | null => "null".toList
  | bool true => "true".toList
  | bool false => "false".toList
  | number literal => literal.toList
  | string value => quote value
  | array [] => ['[', ']']
  | array (item :: items) =>
    '[' :: (newline (depth + 1) ++ pretty (depth + 1) item ++ prettyItems (depth + 1) items
      ++ newline depth ++ [']'])
  | object [] => ['\x7b', '\x7d']
  | object ((name, value) :: members) =>
    '\x7b' :: (newline (depth + 1) ++ quote name ++ [':', ' '] ++ pretty (depth + 1) value
      ++ prettyMembers (depth + 1) members ++ newline depth ++ ['\x7d'])
  | unpaired => []

/-- The items after the first, each after a comma. -/
def prettyItems (depth : Nat) : List Json → List Char
  | [] => []
  | item :: items => ',' :: (newline depth ++ pretty depth item ++ prettyItems depth items)

/-- The members after the first, each after a comma. -/
def prettyMembers (depth : Nat) : List (String × Json) → List Char
  | [] => []
  | (name, value) :: members =>
    ',' :: (newline depth ++ quote name ++ [':', ' '] ++ pretty depth value
      ++ prettyMembers depth members)

end

mutual

/-- Layout without spaces. -/
def compact : Json → List Char
  | null => "null".toList
  | bool true => "true".toList
  | bool false => "false".toList
  | number literal => literal.toList
  | string value => quote value
  | array [] => ['[', ']']
  | array (item :: items) => '[' :: (compact item ++ compactItems items ++ [']'])
  | object [] => ['\x7b', '\x7d']
  | object ((name, value) :: members) =>
    '\x7b' :: (quote name ++ [':'] ++ compact value ++ compactMembers members ++ ['\x7d'])
  | unpaired => []

/-- The items after the first, each after a comma. -/
def compactItems : List Json → List Char
  | [] => []
  | item :: items => ',' :: (compact item ++ compactItems items)

/-- The members after the first, each after a comma. -/
def compactMembers : List (String × Json) → List Char
  | [] => []
  | (name, value) :: members =>
    ',' :: (quote name ++ [':'] ++ compact value ++ compactMembers members)

end

/-- Compact text of a value. -/
def toText (json : Json) : String := String.ofList (compact json)

/-- Text of a document: the indented value and a final line break. -/
def toDocument (json : Json) : String := String.ofList (pretty 0 json ++ ['\n'])

end SheetSchema.Json
