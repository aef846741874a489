/-!
# Identifiers

Names that can stand for a type or a field in source text: an ASCII letter or underscore, then
ASCII letters, digits and underscores.
-/

namespace SheetSchema.Text

/-- May start an identifier. -/
def isIdentifierStart (c : Char) : Bool := c.isAlpha || c == '_'

/-- May follow in an identifier. -/
def isIdentifierRest (c : Char) : Bool := c.isAlphanum || c == '_'

/-- Whether the text is an identifier. -/
def isIdentifier (text : String) : Bool :=
  match text.toList with
  | [] => false
  | c :: rest => isIdentifierStart c && rest.all isIdentifierRest

end SheetSchema.Text
