import SheetSchema.Number.Decimal
import SheetSchema.Yaml.Scalar

/-!
# YAML tokens

A YAML text is cut into scalars, indicators and the marks that the layout stands for: where a
block starts or ends, and where the key of a mapping starts. A mapping shows itself only at the
colon after its first key, so the place of everything that may be such a key is kept, and the marks
are put there later.
-/

namespace SheetSchema.Yaml

/-- Lexical unit of a YAML text. -/
inductive Token where
  | version (major minor : Nat)
  | tagDirective (handle start : String)
  | documentStart
  | documentEnd
  | blockSequenceStart
  | blockMappingStart
  | blockEnd
  | flowSequenceStart
  | flowSequenceEnd
  | flowMappingStart
  | flowMappingEnd
  | blockEntry
  | flowEntry
  | key
  | value
  | alias (name : String)
  | anchor (name : String)
  | tag (handle suffix : String)
  | scalar (text : String) (plain : Bool)
deriving DecidableEq

/-! ## Names -/

/-- Characters of the names of anchors, directives and tag handles. -/
def isNameChar (c : Char) : Bool := c.isAlphanum || c == '_' || c == '-'

/-- Split off a name. -/
def takeName (rest : Rest) : String × Rest :=
  let (name, rest) := rest.span fun a => isNameChar a.char
  (String.ofList (chars name), rest)

/-- Characters that may follow the name of an anchor. -/
def endsAnchor : Rest → Bool
  | [] => true
  | a :: _ => isBlank a.char || isBreak a.char || "?:,]\x7d%@\x60".toList.contains a.char

/-- Read the name of an anchor or alias. -/
def anchorName? (rest : Rest) : Option (String × Rest) :=
  let (name, rest) := takeName rest
  if name.isEmpty || !endsAnchor rest then none else some (name, rest)

/-- Characters of a tag beside escapes; inside angle brackets there are a few more. -/
def isTagChar (verbatim : Bool) (c : Char) : Bool :=
  isNameChar c || ";/?:@&=+$.!~*\x27()".toList.contains c
    || (verbatim && (c == ',' || c == '[' || c == ']'))

/-- The character that a row of escaped bytes encodes. -/
def charOfBytes? (bytes : List Nat) : Option (List Char) :=
  (String.fromUTF8? ⟨(bytes.map UInt8.ofNat).toArray⟩).map String.toList

/-- Read a tag. Bytes may be escaped by a percent sign; `bytes` are those passed, last first, and
`text` is what is read so far, last character first. -/
def tagText (verbatim : Bool) (text : List Char) (bytes : List Nat) :
    Rest → Option (List Char × Rest)
  | a :: b :: c :: rest =>
    if a.char == '%' then
      match Json.Token.hexValue? b.char, Json.Token.hexValue? c.char with
      | some high, some low => tagText verbatim text ((high * 16 + low) :: bytes) rest
      | _, _ => none
    else if isTagChar verbatim a.char then
      match charOfBytes? bytes.reverse with
      | some escaped => tagText verbatim (a.char :: (escaped.reverse ++ text)) [] (b :: c :: rest)
      | none => none
    else (charOfBytes? bytes.reverse).map fun escaped =>
      (escaped.reverse ++ text, a :: b :: c :: rest)
  | a :: rest =>
    if a.char == '%' then none
    else
      match charOfBytes? bytes.reverse with
      | none => none
      | some escaped =>
        if isTagChar verbatim a.char then
          tagText verbatim (a.char :: (escaped.reverse ++ text)) [] rest
        else some (escaped.reverse ++ text, a :: rest)
  | [] => (charOfBytes? bytes.reverse).map fun escaped => (escaped.reverse ++ text, [])

/-- Read the handle of a tag after its exclamation mark: nothing, a name, or a name and another
exclamation mark. -/
def tagHandle (rest : Rest) : List Char × Rest :=
  let (name, rest) := rest.span fun a => isNameChar a.char
  match rest with
  | a :: rest' => if a.char == '!' then (chars name ++ ['!'], rest') else (chars name, a :: rest')
  | [] => (chars name, [])

/-- Read a tag after its exclamation mark. -/
def tagToken? (flow : Bool) (rest : Rest) : Option (Token × Rest) := do
  let (token, rest) ←
    match rest with
    | a :: rest' =>
      if a.char == '<' then do
        let (uri, rest) ← tagText true [] [] rest'
        match rest with
        | b :: rest =>
          if b.char == '>' && !uri.isEmpty then
            some (Token.tag "" (String.ofList uri.reverse), rest)
          else none
        | [] => none
      else do
        let (handle, rest) := tagHandle rest
        if handle.getLast? == some '!' then do
          let (suffix, rest) ← tagText false [] [] rest
          if suffix.isEmpty then none
          else some (Token.tag (String.ofList ('!' :: handle)) (String.ofList suffix.reverse), rest)
        else do
          let (suffix, rest) ← tagText false handle.reverse [] rest
          if suffix.isEmpty then some (Token.tag "" "!", rest)
          else some (Token.tag "!" (String.ofList suffix.reverse), rest)
    | [] => some (Token.tag "" "!", [])
  let ends := atBlank rest ||
    match rest with
    | a :: _ => flow && a.char == ','
    | [] => true
  if ends then some (token, rest) else none

/-! ## Directives -/

/-- Read a number of a version. -/
def versionNumber? (rest : Rest) : Option (Nat × Rest) :=
  let (digits, rest) := rest.span fun a => a.char.isDigit
  if digits.isEmpty || 9 < digits.length then none
  else some (Decimal.digitsValue (chars digits), rest)

/-- Skip blanks. -/
def skipBlanks (rest : Rest) : Rest := rest.dropWhile fun a => isBlank a.char

/-- Read a version directive after its name. -/
def versionDirective? (rest : Rest) : Option (Token × Rest) := do
  let (major, rest) ← versionNumber? (skipBlanks rest)
  match rest with
  | a :: rest =>
    if a.char == '.' then do
      let (minor, rest) ← versionNumber? rest
      some (.version major minor, rest)
    else none
  | [] => none

/-- Read a tag directive after its name. -/
def tagDirective? (rest : Rest) : Option (Token × Rest) := do
  match skipBlanks rest with
  | a :: rest =>
    if a.char != '!' then none
    else do
      let (handle, rest) := tagHandle rest
      if !handle.isEmpty && handle.getLast? != some '!' then none
      else if !(!rest.isEmpty && atBlank rest) then none
      else do
        let (start, rest) ← tagText true [] [] (skipBlanks rest)
        if start.isEmpty || !atBlank rest then none
        else
          some (.tagDirective (String.ofList ('!' :: handle)) (String.ofList start.reverse), rest)
  | [] => none

/-- Read a directive after its percent sign, up to the end of its line. -/
def directive? (rest : Rest) : Option (Token × Rest) := do
  let (name, rest) := takeName rest
  if !atBlank rest then none
  else do
    let (token, rest) ←
      if name = "YAML" then versionDirective? rest
      else if name = "TAG" then tagDirective? rest
      else none
    some (token, (← skipLineEnd rest).drop 1)

/-! ## Layout -/

/-- Place of something that may turn out to be the key of a mapping. -/
structure PossibleKey where
  /-- Whether only a key can stand there. -/
  required : Bool
  /-- How many tokens come before it. -/
  number : Nat
  place : Located

/-- What the layout of the text read so far amounts to. -/
structure Layout where
  /-- Tokens, last first. -/
  tokens : List Token := []
  /-- Number of tokens. -/
  count : Nat := 0
  /-- Indentation of the innermost block; `-1` outside of all. -/
  indent : Int := -1
  /-- Indentations of the blocks around it, innermost first. -/
  outer : List Int := []
  /-- Possible key inside the innermost brackets. -/
  possible : Option PossibleKey := none
  /-- Possible keys inside the brackets around it, innermost first. -/
  around : List (Option PossibleKey) := []
  /-- Whether a key may start here. -/
  allowed : Bool := true

namespace Layout

/-- Whether brackets are open. -/
def flow (layout : Layout) : Bool := !layout.around.isEmpty

/-- Add a token. -/
def add (layout : Layout) (token : Token) : Layout :=
  { layout with tokens := token :: layout.tokens, count := layout.count + 1 }

/-- Put tokens, given last first, after the first `number` tokens. -/
def insertAt (layout : Layout) (number : Nat) (tokens : List Token) : Layout :=
  let later := layout.count - number
  { layout with
    tokens := layout.tokens.take later ++ (tokens ++ layout.tokens.drop later)
    count := layout.count + tokens.length }

/-- Enter a block at a column if it is to the right of the innermost one. The token that starts it
goes after the first `number` tokens. -/
def roll (layout : Layout) (column number : Nat) (start : Token) : Layout :=
  if layout.flow || (column : Int) ≤ layout.indent then layout
  else { layout.insertAt number [start] with
    indent := column
    outer := layout.indent :: layout.outer }

/-- Leave the blocks to the right of a column. -/
def unrollFrom (column : Int) : List Int → Layout → Layout
  | [], layout => layout
  | outer :: rest, layout =>
    if layout.indent ≤ column then layout
    else unrollFrom column rest { layout.add .blockEnd with indent := outer, outer := rest }

/-- Leave the blocks to the right of a column, unless brackets are open. -/
def unroll (layout : Layout) (column : Int) : Layout :=
  if layout.flow then layout else unrollFrom column layout.outer layout

/-- Give up a possible key; a required one is an error. -/
def dropKey (layout : Layout) : Option Layout :=
  match layout.possible with
  | some key => if key.required then none else some { layout with possible := none }
  | none => some layout

/-- Keep the place of a possible key. -/
def saveKey (layout : Layout) (place : Located) : Option Layout :=
  if layout.allowed then
    layout.dropKey.map fun layout =>
      { layout with possible := some {
          required := !layout.flow && layout.indent == place.column
          number := layout.count
          place } }
  else some layout

/-- Whether a possible key is still one at a later place: a key stands on one line and within 1024
characters. -/
def isFresh (place : Located) (key : PossibleKey) : Bool :=
  key.place.line == place.line && place.index ≤ key.place.index + 1024

/-- Give up a key that is stale; a required one is an error. -/
def refresh (place : Located) : Option PossibleKey → Option (Option PossibleKey)
  | none => some none
  | some key =>
    if isFresh place key then some (some key) else if key.required then none else some none

/-- Give up the keys that are stale. -/
def dropStale (layout : Layout) (place : Located) : Option Layout := do
  let possible ← refresh place layout.possible
  let around ← layout.around.mapM (refresh place)
  some { layout with possible, around }

/-- Start brackets. -/
def openFlow (layout : Layout) (place : Located) (token : Token) : Option Layout :=
  (layout.saveKey place).map fun layout =>
    { layout.add token with
      possible := none
      around := layout.possible :: layout.around
      allowed := true }

/-- End brackets. -/
def closeFlow (layout : Layout) (token : Token) : Option Layout :=
  layout.dropKey.map fun layout =>
    match layout.around with
    | [] => { layout.add token with allowed := false }
    | possible :: around => { layout.add token with possible, around, allowed := false }

/-- A hyphen that starts an entry. -/
def entry (layout : Layout) (place : Located) : Option Layout :=
  if layout.flow then
    layout.dropKey.map fun layout => { layout.add .blockEntry with allowed := true }
  else if !layout.allowed then none
  else
    (layout.roll place.column layout.count .blockSequenceStart).dropKey.map fun layout =>
      { layout.add .blockEntry with allowed := true }

/-- A question mark that starts a key. -/
def explicitKey (layout : Layout) (place : Located) : Option Layout :=
  if layout.flow then
    layout.dropKey.map fun layout => { layout.add .key with allowed := false }
  else if !layout.allowed then none
  else
    (layout.roll place.column layout.count .blockMappingStart).dropKey.map fun layout =>
      { layout.add .key with allowed := true }

/-- A colon that starts a value. What came before it on the line is its key, if it may be one. -/
def valueMark (layout : Layout) (place : Located) : Option Layout :=
  match layout.possible with
  | some key =>
    let layout := (layout.insertAt key.number [.key]).roll key.place.column key.number
      .blockMappingStart
    some { layout.add .value with possible := none, allowed := false }
  | none =>
    if layout.flow then some { layout.add .value with allowed := false }
    else if !layout.allowed then none
    else
      let layout := layout.roll place.column layout.count .blockMappingStart
      some { layout.add .value with allowed := true }

/-- A marker between documents, or a directive. -/
def outside (layout : Layout) (token : Token) : Option Layout :=
  (layout.unroll (-1)).dropKey.map fun layout => { layout.add token with allowed := false }

/-- Something that may be a key: an alias, an anchor, a tag or a scalar on one line. -/
def atom (layout : Layout) (place : Located) (token : Token) : Option Layout :=
  (layout.saveKey place).map fun layout => { layout.add token with allowed := false }

/-- Whether a plain scalar may start with a character before what follows. -/
def startsPlain (flow : Bool) (c : Char) (rest : Rest) : Bool :=
  !(isBlank c || isBreak c || "-?:,[]\x7b\x7d#&*!|>\x27\"%@\x60".toList.contains c)
    || (c == '-' && !(match rest with | [] => false | a :: _ => isBlank a.char))
    || (!flow && (c == '?' || c == ':') && !atBlank rest)

/-- Read one token that starts at `a`. The text has at most `fuel` lines. -/
def token (fuel : Nat) (layout : Layout) (a : Located) (rest : Rest) : Option (Layout × Rest) :=
  let c := a.char
  let keep (layout : Option Layout) : Option (Layout × Rest) :=
    layout.map fun layout => (layout, rest)
  if a.column == 0 && c == '%' then do
    let (token, rest) ← directive? rest
    some (← layout.outside token, rest)
  else if atMarker '-' (a :: rest) then
    (layout.outside .documentStart).map fun layout => (layout, rest.drop 2)
  else if atMarker '.' (a :: rest) then
    (layout.outside .documentEnd).map fun layout => (layout, rest.drop 2)
  else if c == '[' then keep (layout.openFlow a .flowSequenceStart)
  else if c == '\x7b' then keep (layout.openFlow a .flowMappingStart)
  else if c == ']' then keep (layout.closeFlow .flowSequenceEnd)
  else if c == '\x7d' then keep (layout.closeFlow .flowMappingEnd)
  else if c == ',' then
    keep (layout.dropKey.map fun layout => { layout.add .flowEntry with allowed := true })
  else if c == '-' && atBlank rest then keep (layout.entry a)
  else if c == '?' && (layout.flow || atBlank rest) then keep (layout.explicitKey a)
  else if c == ':' && (layout.flow || atBlank rest) then keep (layout.valueMark a)
  else if c == '*' then do
    let (name, rest) ← anchorName? rest
    some (← layout.atom a (.alias name), rest)
  else if c == '&' then do
    let (name, rest) ← anchorName? rest
    some (← layout.atom a (.anchor name), rest)
  else if c == '!' then do
    let (token, rest) ← tagToken? layout.flow rest
    some (← layout.atom a token, rest)
  else if (c == '|' || c == '>') && !layout.flow then do
    let (text, rest) ← blockScalar (c == '>') layout.indent fuel rest
    let layout ← layout.dropKey
    some ({ layout.add (.scalar (String.ofList text.reverse) false) with allowed := true }, rest)
  else if c == '\x27' then do
    let (text, rest) ← singleQuoted [] .none rest
    some (← layout.atom a (.scalar (String.ofList text.reverse) false), rest)
  else if c == '"' then do
    let (text, rest) ← doubleQuoted [] .none .plain rest
    some (← layout.atom a (.scalar (String.ofList text.reverse) false), rest)
  else if startsPlain layout.flow c rest then do
    let (text, broken, rest) ← plain layout.flow (layout.indent + 1) [] .none (a :: rest)
    let layout ← layout.atom a (.scalar (String.ofList text.reverse) true)
    some ({ layout with allowed := broken }, rest)
  else none

/-- Skip blanks, comments and breaks before a token. After a break outside of brackets a key may
start; tabs count as blanks only where none may. -/
def skipSpace (flow allowed comment : Bool) : Rest → Bool × Rest
  | [] => (allowed, [])
  | a :: rest =>
    if isBreak a.char then skipSpace flow (allowed || !flow) false rest
    else if comment then skipSpace flow allowed true rest
    else if a.char == '#' then skipSpace flow allowed true rest
    else if a.char == ' ' || (a.char == '\t' && (flow || !allowed))
        || (a.char == byteOrderMark && a.index == 0) then
      skipSpace flow allowed false rest
    else (allowed, a :: rest)

/-- Read tokens to the end of a text of at most `fuel` characters. -/
def run (lines : Nat) : Nat → Layout → Rest → Option Layout
  | 0, _, _ => none
  | fuel + 1, layout, rest =>
    let (allowed, rest) := skipSpace layout.flow layout.allowed false rest
    let layout := { layout with allowed }
    match rest with
    | [] => (layout.unroll (-1)).dropKey
    | a :: rest =>
      match layout.dropStale a with
      | none => none
      | some layout =>
        match (layout.unroll a.column).token lines a rest with
        | none => none
        | some (layout, rest) => run lines fuel layout rest

end Layout

/-- The tokens of a text. -/
def Token.ofText? (text : String) : Option (List Token) := do
  let rest ← place? text
  let fuel := rest.length + 1
  (Layout.run fuel fuel {} rest).map fun layout => layout.tokens.reverse

end SheetSchema.Yaml
