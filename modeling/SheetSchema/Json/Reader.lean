import SheetSchema.Json.Token

/-!
# Reading JSON

Tokens are shifted one by one onto the containers that are still open. A value that is complete
goes to the innermost of them, or is the whole text if there is none.
-/

namespace SheetSchema.Json

/-- A container that is still open, with what it holds so far, last first. -/
inductive Frame where
  | array (items : List Json)
  /-- An object whose member `name` waits for its value. -/
  | object (members : List (Option String × Json)) (name : Option String)

/-- What has been read, and what may come next. -/
inductive State where
  /-- A value must come. -/
  | value (stack : List Frame)
  /-- A value or the end of an array must come. -/
  | firstItem (stack : List Frame)
  /-- A name or the end of an object must come. -/
  | firstName (stack : List Frame)
  /-- A name must come. -/
  | nextName (members : List (Option String × Json)) (stack : List Frame)
  /-- A colon must come. -/
  | colon (members : List (Option String × Json)) (name : Option String) (stack : List Frame)
  /-- A comma or the end of an array must come. -/
  | afterItem (items : List Json) (stack : List Frame)
  /-- A comma or the end of an object must come. -/
  | afterMember (members : List (Option String × Json)) (stack : List Frame)
  /-- Nothing may come. -/
  | finished (json : Json)

/-- Hand a complete value to the innermost open container. -/
def State.complete (json : Json) : List Frame → State
  | [] => .finished json
  | .array items :: stack => .afterItem (json :: items) stack
  | .object members name :: stack => .afterMember ((name, json) :: members) stack

/-- The members of an object, given last first; none if a name stands for no text. -/
def membersOf? (members : List (Option String × Json)) : Option (List (String × Json)) :=
  members.foldl
    (fun rest member => do some ((← member.1, member.2) :: (← rest)))
    (some [])

/-- A complete object, its members given last first. -/
def objectOf (members : List (Option String × Json)) : Json :=
  match membersOf? members with
  | some members => .object members
  | none => .unpaired

/-- The scalar that a token spells. -/
def scalarOf? : Token → Option Json
  | .null => some .null
  | .bool value => some (.bool value)
  | .number literal => some (.number literal)
  | .string (some value) => some (.string value)
  | .string none => some .unpaired
  | _ => none

/-- Shift a token where a value must come. -/
def State.shiftValue (stack : List Frame) : Token → Option State
  | .openArray => some (.firstItem stack)
  | .openObject => some (.firstName stack)
  | token => (scalarOf? token).map fun json => .complete json stack

/-- Shift one token. -/
def State.shift : State → Token → Option State
  | .value stack, token => shiftValue stack token
  | .firstItem stack, .closeArray => some (.complete (.array []) stack)
  | .firstItem stack, token => shiftValue (.array [] :: stack) token
  | .firstName stack, .closeObject => some (.complete (.object []) stack)
  | .firstName stack, .string name => some (.colon [] name stack)
  | .nextName members stack, .string name => some (.colon members name stack)
  | .colon members name stack, .colon => some (.value (.object members name :: stack))
  | .afterItem items stack, .comma => some (.value (.array items :: stack))
  | .afterItem items stack, .closeArray => some (.complete (.array items.reverse) stack)
  | .afterMember members stack, .comma => some (.nextName members stack)
  | .afterMember members stack, .closeObject => some (.complete (objectOf members) stack)
  | _, _ => none

/-- Read a text that holds one value and blanks around it. -/
def read? (text : String) : Option Json := do
  let tokens ← Token.ofText? text
  match ← tokens.foldlM State.shift (.value []) with
  | .finished json => some json
  | _ => none

end SheetSchema.Json
