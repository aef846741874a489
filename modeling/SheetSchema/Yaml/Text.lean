/-!
# YAML text

The characters of a YAML text with their places. Line breaks of all kinds are brought to one form
here, so that a break is always a single character: a line feed, or one of the two separators of
Unicode, which alone are kept inside scalars.
-/

namespace SheetSchema.Yaml

/-- Character with its place: its offset in the text, its line and its column, from zero. -/
structure Located where
  char : Char
  index : Nat
  line : Nat
  column : Nat

/-- Text that is still to be read. -/
abbrev Rest := List Located

/-- The byte order mark, which may start a text. -/
def byteOrderMark : Char := '\ufeff'

/-- Characters that a text may hold. -/
def isAllowed (c : Char) : Bool :=
  let code := c.toNat
  code == 0x09 || code == 0x0A || code == 0x0D || (0x20 ≤ code && code ≤ 0x7E) || code == 0x85
    || (0xA0 ≤ code && code ≤ 0xFFFD) || 0x10000 ≤ code

/-- Space or tab. -/
def isBlank (c : Char) : Bool := c == ' ' || c == '\t'

/-- Line break, once breaks are brought to one form. -/
def isBreak (c : Char) : Bool := c == '\n' || c == '\u2028' || c == '\u2029'

/-- Whether a blank, a break or the end of the text comes next. -/
def atBlank : Rest → Bool
  | [] => true
  | a :: _ => isBlank a.char || isBreak a.char

/-- Place the characters of a text, last first on top of `placed`. -/
def placeFrom (placed : Rest) (index line column : Nat) : List Char → Rest
  | [] => placed
  | '\r' :: '\n' :: rest =>
    placeFrom (⟨'\n', index, line, column⟩ :: placed) (index + 2) (line + 1) 0 rest
  | c :: rest =>
    if c == '\r' || c == '\u0085' then
      placeFrom (⟨'\n', index, line, column⟩ :: placed) (index + 1) (line + 1) 0 rest
    else if isBreak c then
      placeFrom (⟨c, index, line, column⟩ :: placed) (index + 1) (line + 1) 0 rest
    else
      placeFrom (⟨c, index, line, column⟩ :: placed) (index + 1) line (column + 1) rest

/-- Place the characters of a text; none if one of them is not allowed. -/
def place? (text : String) : Option Rest :=
  let chars := text.toList
  if chars.all isAllowed then some (placeFrom [] 0 0 0 chars).reverse else none


/-- Characters of a stretch of text. -/
def chars (rest : Rest) : List Char := rest.map Located.char

/-- Whether a marker of three equal characters stands alone at the start of a line. -/
def atMarker (mark : Char) : Rest → Bool
  | a :: b :: c :: rest =>
    a.column == 0 && a.char == mark && b.char == mark && c.char == mark && atBlank rest
  | _ => false

/-- Whether a document starts or ends here. -/
def atDocumentMarker (rest : Rest) : Bool := atMarker '-' rest || atMarker '.' rest

end SheetSchema.Yaml
