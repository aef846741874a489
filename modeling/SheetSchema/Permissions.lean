import SheetSchema.Schema.Basic

/-!
# Permission columns

A column named after an action whose cell says `required` or `optional` is a permission and moves
from the columns of its field to the field's permissions. Case does not matter, nor do blanks
around the cell's text. Of several columns for one action the last counts.
-/

namespace SheetSchema

/-- The permission that a column grants, if it grants one. -/
def permission? (column : String) (cell : Cell) : Option (Action × Permission) :=
  match Action.ofColumn? column, cell with
  | some action, .text value =>
    (Permission.ofText? (Text.trim value)).map fun permission => (action, permission)
  | _, _ => none

namespace TypedField

/-- Permissions that the columns of a field grant, in column order. -/
def granted (field : TypedField) : List (Action × Permission) :=
  field.columns.entries.filterMap fun (column, cell) => permission? column cell

/-- Move the permissions of a field from its columns to their place. -/
def movePermissions (field : TypedField) : TypedField :=
  { field with
    columns := field.columns.filter fun column cell => (permission? column cell).isNone
    api := field.granted.foldl
      (fun api (action, permission) => api.put action (some permission)) field.api }

end TypedField

/-- Move the permissions of every field of a schema. -/
def TypedSchema.movePermissions (schema : TypedSchema) : TypedSchema :=
  schema.mapModels fun _ fields => fields.map fun _ field => field.movePermissions

end SheetSchema
