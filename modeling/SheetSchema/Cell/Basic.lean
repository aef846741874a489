import SheetSchema.Cell.Number
import SheetSchema.Json.Basic
import SheetSchema.Json.Printer
import SheetSchema.Json.Sorted

/-!
# Cells

The value of one cell of a sheet. A cell read from a document may hold nested lists and records;
the members of a record are kept sorted by name, and of members with the same name the last
counts. Cells are read from and written to JSON.
-/

namespace SheetSchema

/-- Value of a cell. -/
inductive Cell where
  | null
  | bool (value : Bool)
  | number (value : Cell.Number)
  | text (value : String)
  | list (items : List Cell)
  /-- A record, its members sorted by name. -/
  | record (members : List (String × Cell))
deriving Inhabited

namespace Cell

/-- The record of a list of members. -/
def recordOf (members : List (String × Cell)) : Cell := record (Json.sortMembers members)

/-! ## JSON -/

mutual

/-- The cell as a JSON tree. -/
def toJson : Cell → Json
  | null => .null
  | bool value => .bool value
  | number value => .number value.toText
  | text value => .string value
  | list items => .array (itemsToJson items)
  | record members => .object (membersToJson members)

/-- The items of a list as JSON trees. -/
def itemsToJson : List Cell → List Json
  | [] => []
  | item :: items => item.toJson :: itemsToJson items

/-- The members of a record as JSON trees. -/
def membersToJson : List (String × Cell) → List (String × Json)
  | [] => []
  | (name, value) :: members => (name, value.toJson) :: membersToJson members

end

mutual

/-- Read a cell from a JSON tree that may nest at most `room` levels deep. -/
def ofJson? (room : Nat) : Json → Option Cell
  | .null => some null
  | .bool value => some (bool value)
  | .number literal => (Number.ofLiteral? literal).map number
  | .string value => some (text value)
  | .array items =>
    match room with
    | 0 => none
    | room + 1 => (itemsOfJson? room items).map list
  | .object members =>
    match room with
    | 0 => none
    | room + 1 => (membersOfJson? room members).map recordOf
  | .unpaired => none

/-- Read the items of a list. -/
def itemsOfJson? (room : Nat) : List Json → Option (List Cell)
  | [] => some []
  | item :: items => do
    let item ← ofJson? room item
    let items ← itemsOfJson? room items
    some (item :: items)

/-- Read the members of a record. -/
def membersOfJson? (room : Nat) : List (String × Json) → Option (List (String × Cell))
  | [] => some []
  | (name, value) :: members => do
    let value ← ofJson? room value
    let members ← membersOfJson? room members
    some ((name, value) :: members)

end

/-- Compact JSON text of a cell. -/
def toText (cell : Cell) : String := cell.toJson.toText

end Cell

end SheetSchema
