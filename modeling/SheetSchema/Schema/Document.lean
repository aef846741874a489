import SheetSchema.Json.Decode
import SheetSchema.Json.Reader
import SheetSchema.Schema.Basic

/-!
# Schema documents

How extractions, typed schemas and route schemas are written as JSON and read back. Maps keep
their order, and a slot that holds nothing is not written. Reading bounds the depth of nesting:
`room` counts the levels that a value may still open.
-/

namespace SheetSchema

open Json (map? list? string? bool? slots? slot? required withDefault optional caseName?)

/-! ## Raw schemas -/

/-- JSON tree of a row. -/
def Row.toJson (row : Row) : Json := Json.ofMap row Cell.toJson

/-- Read a row. -/
def Row.ofJson? (room : Nat) : Json → Option Row :=
  map? (Cell.ofJson? (room - 1))

/-- JSON tree of the fields of a model. -/
def RawModel.toJson (fields : RawModel) : Json := Json.ofMap fields Row.toJson

/-- Read the fields of a model. -/
def RawModel.ofJson? (room : Nat) : Json → Option RawModel :=
  map? (Row.ofJson? (room - 1))

/-- JSON tree of the models of a sheet. -/
def RawPackage.toJson (models : RawPackage) : Json := Json.ofMap models RawModel.toJson

/-- Read models or partials. -/
def RawPackage.ofJson? (room : Nat) : Json → Option RawPackage :=
  map? (RawModel.ofJson? (room - 1))

/-- JSON tree of a raw schema. -/
def RawSchema.toJson (schema : RawSchema) : Json := Json.ofMap schema RawPackage.toJson

/-- Read a raw schema. -/
def RawSchema.ofJson? (room : Nat) : Json → Option RawSchema :=
  map? (RawPackage.ofJson? (room - 1))

namespace Extraction

/-- JSON tree of an extraction. -/
def toJson (extraction : Extraction) : Json :=
  .object
    [("schema", RawSchema.toJson extraction.schema),
      ("partials", RawPackage.toJson extraction.partials)]

/-- Read an extraction; partials may be missing. -/
def ofJson? (json : Json) : Option Extraction := do
  let room := Json.maximumDepth - 1
  match ← slots? ["schema", "partials"] json with
  | [schema, partials] =>
    some {
      schema := ← required (RawSchema.ofJson? room) schema
      partials := ← withDefault OrderedMap.empty (RawPackage.ofJson? room) partials }
  | _ => none

/-- Text of the document that holds an extraction. -/
def toDocument (extraction : Extraction) : String := extraction.toJson.toDocument

/-- Read the text of an extraction. -/
def ofText? (text : String) : Option Extraction := (Json.read? text).bind ofJson?

end Extraction

/-! ## Compiled schemas -/

/-- JSON tree of the entries of a table that have a value. -/
def PerAction.toJson {α : Type} (table : PerAction α) (value : α → Json) : Json :=
  .object (table.entries.map fun (action, item) => (action.name, value item))

/-- Read a table of actions. -/
def PerAction.ofJson? {α : Type} (value? : Json → Option α) (json : Json) :
    Option (PerAction α) := do
  match ← slots? (Action.all.map Action.name) json with
  | [create, read, update, delete] =>
    some {
      create := ← optional value? create
      read := ← optional value? read
      update := ← optional value? update
      delete := ← optional value? delete }
  | _ => none

/-- JSON tree of the permissions of a field. -/
def Permissions.toJson (api : Permissions) : Json :=
  PerAction.toJson api fun permission => .string permission.name

/-- Read the permissions of a field. -/
def Permissions.ofJson? : Json → Option Permissions :=
  PerAction.ofJson? fun json => (caseName? json).bind Permission.ofName?

/-- The permissions of a field as columns of a row. -/
def Permissions.toColumns (api : Permissions) : Row :=
  .ofList (api.entries.map fun (action, permission) => (action.name, .text permission.name))

/-- JSON tree of the routes of a model. -/
def Routes.toJson (routes : Routes) : Json := PerAction.toJson routes Json.ofStrings

/-- Read the routes of a model. -/
def Routes.ofJson? : Json → Option Routes := PerAction.ofJson? (list? string?)

/-- Read a natural number of 64 bits. -/
def length? : Json → Option Nat
  | .number literal =>
    match Cell.Number.ofLiteral? literal with
    | some (.natural value _) => some value
    | _ => none
  | _ => none

namespace TypedField

/-- The member of a slot, if the slot holds something. -/
def slotMember {α : Type} (name : String) (value : Option α) (toJson : α → Json) :
    List (String × Json) :=
  match value with
  | some value => [(name, toJson value)]
  | none => []

/-- The member of a mark, if it is set. -/
def markMember (name : String) (mark : Bool) : List (String × Json) :=
  if mark then [(name, .bool true)] else []

/-- Members of the slots that hold something. -/
def slotMembers (field : TypedField) : List (String × Json) :=
  slotMember "type" field.type .string
    ++ slotMember "Length" field.length (fun length => .number (toString length))
    ++ slotMember "DefaultValue" field.defaultValue Cell.toJson
    ++ markMember "primaryKey" field.primaryKey
    ++ markMember "autoCreateTime" field.autoCreateTime
    ++ slotMember "references" field.references .string
    ++ slotMember "constraint" field.constraint .string
    ++ (if field.api.isEmpty then [] else [("api", Permissions.toJson field.api)])

/-- JSON tree of a field: its columns, then its slots. -/
def toJson (field : TypedField) : Json :=
  .object ((field.columns.entries.map fun (column, cell) => (column, cell.toJson))
    ++ field.slotMembers)

/-- Read a field: members named like a slot fill it, all others are columns. -/
def ofJson? (room : Nat) : Json → Option TypedField
  | .object members => do
    let columns := members.filter fun member => !reservedColumns.contains member.1
    some {
      columns := ← Row.ofJson? room (.object columns)
      type := ← optional string? (← slot? members "type")
      length := ← optional length? (← slot? members "Length")
      defaultValue := ← optional (Cell.ofJson? (room - 1)) (← slot? members "DefaultValue")
      primaryKey := ← withDefault false bool? (← slot? members "primaryKey")
      autoCreateTime := ← withDefault false bool? (← slot? members "autoCreateTime")
      references := ← optional string? (← slot? members "references")
      constraint := ← optional string? (← slot? members "constraint")
      api := ← withDefault .empty Permissions.ofJson? (← slot? members "api") }
  | _ => none

end TypedField

/-- JSON tree of the fields of a typed model. -/
def TypedModel.toJson (fields : TypedModel) : Json := Json.ofMap fields TypedField.toJson

/-- JSON tree of a typed schema. -/
def TypedSchema.toJson (schema : TypedSchema) : Json :=
  Json.ofMap schema fun models => Json.ofMap models TypedModel.toJson

/-- Read a typed schema. -/
def TypedSchema.ofJson? : Json → Option TypedSchema :=
  map? (map? (map? (TypedField.ofJson? (Json.maximumDepth - 3))))

/-- Read the text of a typed schema. -/
def TypedSchema.ofText? (text : String) : Option TypedSchema :=
  (Json.read? text).bind TypedSchema.ofJson?

/-- JSON tree of a route schema. -/
def RouteTable.toJson (routes : RouteTable) : Json :=
  Json.ofMap routes fun models => Json.ofMap models Routes.toJson

/-- Read a route schema. -/
def RouteTable.ofJson? : Json → Option RouteTable := map? (map? Routes.ofJson?)

/-- Read the text of a route schema. -/
def RouteTable.ofText? (text : String) : Option RouteTable :=
  (Json.read? text).bind RouteTable.ofJson?

/-! ## Tables of names -/

/-- JSON tree of a table of name sets. -/
def setsToJson (table : OrderedMap OrderedSet) : Json :=
  Json.ofMap table fun names => Json.ofStrings names.items

/-- Read a table of name sets. -/
def setsOfJson? : Json → Option (OrderedMap OrderedSet) :=
  map? fun json => (list? string? json).map OrderedSet.ofList

end SheetSchema
