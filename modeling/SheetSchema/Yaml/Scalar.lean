import SheetSchema.Json.Token
import SheetSchema.Yaml.Text

/-!
# YAML scalars

How the text of a scalar is read: plain, in single or double quotes, or as an indented block.
Inside a plain or quoted scalar a single line break is folded into a space, further ones are kept,
and blanks around breaks are dropped.
-/

namespace SheetSchema.Yaml

/-! ## Folding -/

/-- Blanks and breaks passed since the last character of a scalar. -/
structure Gap where
  /-- Blanks before the first break, last first. -/
  blanks : List Char := []
  /-- The first break; an escaped break leaves no text. -/
  first : Option (List Char) := none
  /-- Breaks after the first, last first. -/
  more : List Char := []

namespace Gap

/-- Nothing passed. -/
def none : Gap := {}

/-- An escaped break. -/
def escapedBreak : Gap := { first := some [] }

/-- Whether a break was passed. -/
def hasBreak (gap : Gap) : Bool := gap.first.isSome

/-- Whether something was passed. -/
def isEmpty (gap : Gap) : Bool := gap.blanks.isEmpty && !gap.hasBreak

/-- Pass a blank; after a break it leaves no trace. -/
def addBlank (gap : Gap) (c : Char) : Gap :=
  if gap.hasBreak then gap else { gap with blanks := c :: gap.blanks }

/-- Pass a break; the blanks before the first one are dropped. -/
def addBreak (gap : Gap) (c : Char) : Gap :=
  if gap.hasBreak then { gap with more := c :: gap.more } else { first := some [c] }

/-- What a gap leaves in the scalar, last character first. -/
def text (gap : Gap) : List Char :=
  match gap.first with
  | .none => gap.blanks
  | some ['\n'] => if gap.more.isEmpty then [' '] else gap.more
  | some first => gap.more ++ first

end Gap

/-! ## Quoted scalars -/

/-- What may come next in double quotes. -/
inductive QuoteState where
  | plain
  /-- After a backslash. -/
  | escape
  /-- Inside a numeric escape: digits to come, and the value of those passed. -/
  | digits (count value : Nat)

/-- The character that a letter after a backslash stands for. -/
def escaped? : Char → Option Char
  | '0' => some '\x00'
  | 'a' => some '\x07'
  | 'b' => some '\x08'
  | 't' | '\t' => some '\t'
  | 'n' => some '\n'
  | 'v' => some '\x0b'
  | 'f' => some '\x0c'
  | 'r' => some '\r'
  | 'e' => some '\x1b'
  | ' ' => some ' '
  | '"' => some '"'
  | '/' => some '/'
  | '\\' => some '\\'
  | 'N' => some '\u0085'
  | '_' => some '\u00a0'
  | 'L' => some '\u2028'
  | 'P' => some '\u2029'
  | _ => none

/-- How many hexadecimal digits follow a letter after a backslash. -/
def escapeDigits? : Char → Option Nat
  | 'x' => some 2
  | 'u' => some 4
  | 'U' => some 8
  | _ => none

/-- The character of a code point. -/
def charOfCode? (code : Nat) : Option Char :=
  if h : code.isValidChar then some (Char.ofNatAux code h) else none

/-- Read a scalar after its opening double quote. `text` is what is read so far, last character
first. -/
def doubleQuoted (text : List Char) (gap : Gap) : QuoteState → Rest → Option (List Char × Rest)
  | _, [] => none
  | .escape, a :: rest =>
    if isBreak a.char then doubleQuoted (gap.text ++ text) .escapedBreak .plain rest
    else
      match escapeDigits? a.char with
      | some count => doubleQuoted (gap.text ++ text) .none (.digits count 0) rest
      | none =>
        match escaped? a.char with
        | some c => doubleQuoted (c :: (gap.text ++ text)) .none .plain rest
        | none => none
  | .digits count value, a :: rest =>
    match Json.Token.hexValue? a.char with
    | none => none
    | some digit =>
      let value := value * 16 + digit
      if 1 < count then doubleQuoted text gap (.digits (count - 1) value) rest
      else
        match charOfCode? value with
        | some c => doubleQuoted (c :: text) .none .plain rest
        | none => none
  | .plain, a :: rest =>
    if atDocumentMarker (a :: rest) then none
    else if a.char == '"' then some (gap.text ++ text, rest)
    else if a.char == '\\' then doubleQuoted text gap .escape rest
    else if isBlank a.char then doubleQuoted text (gap.addBlank a.char) .plain rest
    else if isBreak a.char then doubleQuoted text (gap.addBreak a.char) .plain rest
    else doubleQuoted (a.char :: (gap.text ++ text)) .none .plain rest

/-- Read a scalar after its opening single quote; a quote inside is written twice. `text` is what
is read so far, last character first. -/
def singleQuoted (text : List Char) (gap : Gap) : Rest → Option (List Char × Rest)
  | [] => none
  | [a] => if a.char == '\x27' then some (gap.text ++ text, []) else none
  | a :: b :: rest =>
    if atDocumentMarker (a :: b :: rest) then none
    else if a.char == '\x27' then
      if b.char == '\x27' then singleQuoted ('\x27' :: (gap.text ++ text)) .none rest
      else some (gap.text ++ text, b :: rest)
    else if isBlank a.char then singleQuoted text (gap.addBlank a.char) (b :: rest)
    else if isBreak a.char then singleQuoted text (gap.addBreak a.char) (b :: rest)
    else singleQuoted (a.char :: (gap.text ++ text)) .none (b :: rest)

/-! ## Plain scalars -/

/-- Ends a plain scalar inside brackets. -/
def isFlowIndicator (c : Char) : Bool :=
  c == ',' || c == '[' || c == ']' || c == '\x7b' || c == '\x7d'

/-- Whether a colon inside brackets is followed by a character that may not follow it. -/
def badFlowColon (c : Char) : Rest → Bool
  | [] => false
  | b :: _ => c == ':' && (isFlowIndicator b.char || b.char == '?')

/-- Read a plain scalar whose further lines are indented by at least `indent`. The result tells
whether breaks follow the scalar. -/
def plain (flow : Bool) (indent : Int) (text : List Char) (gap : Gap) :
    Rest → Option (List Char × Bool × Rest)
  | [] => some (text, gap.hasBreak, [])
  | a :: rest =>
    if isBlank a.char then
      if gap.hasBreak && a.column < indent && a.char == '\t' then none
      else plain flow indent text (gap.addBlank a.char) rest
    else if isBreak a.char then plain flow indent text (gap.addBreak a.char) rest
    else if (gap.hasBreak && !flow && a.column < indent) || atDocumentMarker (a :: rest)
        || (!gap.isEmpty && a.char == '#') then
      some (text, gap.hasBreak, a :: rest)
    else if flow && badFlowColon a.char rest then none
    else if (a.char == ':' && atBlank rest) || (flow && isFlowIndicator a.char) then
      some (text, gap.hasBreak, a :: rest)
    else plain flow indent (a.char :: (gap.text ++ text)) .none rest

/-! ## Block scalars -/

/-- What becomes of the breaks at the end of a block. -/
inductive Chomping where
  | strip
  | clip
  | keep
deriving DecidableEq

/-- First line of a block scalar. -/
structure BlockHeader where
  chomping : Chomping
  /-- Indentation of the block relative to its parent, if given. -/
  increment : Option Nat

/-- The chomping that a character indicates. -/
def chomping? (c : Char) : Option Chomping :=
  if c == '-' then some .strip else if c == '+' then some .keep else none

/-- The increment that a character indicates. -/
def increment? (c : Char) : Option Nat :=
  if c.isDigit && c != '0' then some (c.toNat - '0'.toNat) else none

/-- Read the indicators of a block scalar, in either order. -/
def blockIndicators : Rest → BlockHeader × Rest
  | [] => (⟨.clip, none⟩, [])
  | a :: rest =>
    match chomping? a.char, increment? a.char, rest with
    | some chomping, _, b :: rest' =>
      match increment? b.char with
      | some increment => (⟨chomping, some increment⟩, rest')
      | none => (⟨chomping, none⟩, rest)
    | some chomping, _, [] => (⟨chomping, none⟩, [])
    | none, some increment, b :: rest' =>
      match chomping? b.char with
      | some chomping => (⟨chomping, some increment⟩, rest')
      | none => (⟨.clip, some increment⟩, rest)
    | none, some increment, [] => (⟨.clip, some increment⟩, [])
    | none, none, _ => (⟨.clip, none⟩, a :: rest)

/-- Skip blanks and a comment up to a break or the end; none if something else stands there. -/
def skipLineEnd (rest : Rest) : Option Rest :=
  let rest := rest.dropWhile fun a => isBlank a.char
  let rest :=
    match rest with
    | a :: _ => if a.char == '#' then rest.dropWhile fun (b : Located) => !isBreak b.char else rest
    | [] => []
  match rest with
  | [] => some []
  | a :: _ => if isBreak a.char then some rest else none

/-- Skip the indentation of a block and the empty lines in it, up to `indent` columns or, if that
is not known yet, as far as spaces go. The result holds the breaks, last first, and the widest
indentation. -/
def blockBreaks (indent : Option Nat) (breaks : List Char) (widest : Nat) :
    Rest → Option (List Char × Nat × Rest)
  | [] => some (breaks, widest, [])
  | a :: rest =>
    let inside := match indent with
      | none => true
      | some indent => a.column < indent
    if inside && a.char == ' ' then blockBreaks indent breaks widest rest
    else
      let widest := max widest a.column
      if inside && a.char == '\t' then none
      else if isBreak a.char then blockBreaks indent (a.char :: breaks) widest rest
      else some (breaks, widest, a :: rest)

/-- What is read of a block scalar. -/
structure Block where
  /-- Text, last character first. -/
  text : List Char
  /-- Break after the last line. -/
  leading : List Char
  /-- Breaks of empty lines after that, last first. -/
  trailing : List Char
  /-- Whether the last line starts with a blank. -/
  indented : Bool

/-- Join the lines of a block before a line that starts with a blank or not. A folded break
between lines that do not leaves a space, or nothing beside empty lines. -/
def Block.join (folded : Bool) (block : Block) (indented : Bool) : List Char :=
  let folds := folded && block.leading == ['\n'] && !block.indented && !indented
  let leading :=
    if folds then (if block.trailing.isEmpty then [' '] else []) else block.leading
  block.trailing ++ (leading ++ block.text)

/-- Read the lines of a block that is indented by `indent`, at most `fuel` of them. -/
def blockLines (folded : Bool) (indent : Nat) : Nat → Block → Rest → Option (Block × Rest)
  | 0, _, _ => none
  | _, block, [] => some (block, [])
  | fuel + 1, block, a :: rest =>
    if a.column != indent then some (block, a :: rest)
    else
      let indented := isBlank a.char
      let (line, rest) := (a :: rest).span fun (b : Located) => !isBreak b.char
      let text := (chars line).reverse ++ block.join folded indented
      let (leading, rest) :=
        match rest with
        | [] => ([], [])
        | b :: rest => ([b.char], rest)
      match blockBreaks (some indent) [] 0 rest with
      | none => none
      | some (trailing, _, rest) =>
        blockLines folded indent fuel ⟨text, leading, trailing, indented⟩ rest

/-- Read a block scalar after its indicator. `parent` is the indentation around it, and the text
has at most `fuel` lines. -/
def blockScalar (folded : Bool) (parent : Int) (fuel : Nat) (rest : Rest) :
    Option (List Char × Rest) := do
  let (header, rest) := blockIndicators rest
  let rest := (← skipLineEnd rest).drop 1
  let given := header.increment.map fun increment => (max parent 0).toNat + increment
  let (breaks, widest, rest) ← blockBreaks given [] 0 rest
  let indent := given.getD (max (max widest (parent + 1).toNat) 1)
  let (block, rest) ← blockLines folded indent fuel ⟨[], [], breaks, false⟩ rest
  let text :=
    match header.chomping with
    | .strip => block.text
    | .clip => block.leading ++ block.text
    | .keep => block.trailing ++ (block.leading ++ block.text)
  some (text, rest)

end SheetSchema.Yaml
