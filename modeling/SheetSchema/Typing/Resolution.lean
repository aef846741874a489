import SheetSchema.Typing.Width

/-!
# Type resolution

The declared type of every field is looked up and refined by the other columns of its row:
integers and floats take the narrowest width for their bounds, and points in time are optional
unless the row says otherwise. An unknown type is a finding and leaves the field untyped; a bound
that cannot be read is an error. Fields with a dotted name are relationships and get no type here.

The whole schema is resolved into a table of resolutions, one for every field. The typed
schema, the imports and the findings are views of that table.
-/

namespace SheetSchema

/-- Finding about a declared type. -/
structure Diagnostic where
  field : FieldName
  declared : String
deriving DecidableEq

/-- Text of the finding. -/
def Diagnostic.message (diagnostic : Diagnostic) : String :=
  s!"unknown type '{diagnostic.declared}'"

namespace Typing

/-! ## Columns -/

def typeColumn : String := "Type"
def primaryColumn : String := "Primary"
def notNullColumn : String := "NotNull"
def autoCreateColumn : String := "AutoCreate"
def minimumColumn : String := "Minimum"
def maximumColumn : String := "Maximum"

/-- Columns that give the greatest length of a value; the first that is not blank counts. -/
def lengthColumns : List String := ["MaximumLength", "length"]

/-- Whether a column of a row is set. -/
def isSet (row : Row) (column : String) : Bool :=
  ((row.get? column).map Cell.meansYes).getD false

/-- The cell in a column, unless it is blank. -/
def filled? (row : Row) (column : String) : Option Cell :=
  (row.get? column).filter fun cell => !cell.isBlank

/-- The type that a row declares. -/
def declared? (row : Row) : Option String := (row.get? typeColumn).bind Cell.text?

/-- A cell as a natural number of 64 bits. -/
def length? (cell : Cell) : Option Nat :=
  match cell.integer with
  | .ok n => if 0 ≤ n ∧ n ≤ unsignedSpan then some n.toNat else none
  | .error _ => none

/-- The declared length of a field, if a column gives one. -/
def lengthLimit (field : FieldName) (row : Row) : Except Error (Option Nat) :=
  let given := lengthColumns.findSome? fun column =>
    (filled? row column).map fun cell => (column, cell)
  match given with
  | none => .ok none
  | some (column, cell) =>
    match length? cell with
    | some length => .ok (some length)
    | none => .error (.invalidBound field column cell.toText)

/-- A bound of a field, if its column gives one that `read` accepts. -/
def bound {α : Type} (read : Cell → Except String α) (field : FieldName) (row : Row)
    (column : String) : Except Error (Option α) :=
  match filled? row column with
  | none => .ok none
  | some cell =>
    match read cell with
    | .ok value => .ok (some value)
    | .error text => .error (.invalidBound field column text)

/-! ## One field -/

/-- What a declared type becomes. -/
structure TargetType where
  type : String
  length : Option Nat
  autoCreateTime : Bool
  importPath : Option String
deriving DecidableEq

/-- Target type of a domain type on a row. -/
def refine (domain : SheetType) (field : FieldName) (row : Row) : Except Error String :=
  match domain.refinement with
  | .none => .ok domain.base
  | .temporal => .ok (if isSet row notNullColumn then Target.time else Target.optionalTime)
  | .integer => do
    let minimum ← bound Cell.integer field row minimumColumn
    let maximum ← bound Cell.integer field row maximumColumn
    .ok (narrowestInteger minimum maximum)
  | .float => do
    let minimum ← bound Cell.real field row minimumColumn
    let maximum ← bound Cell.real field row maximumColumn
    .ok (narrowestFloat minimum maximum)

/-- Resolve the declared type of a field; a row that declares none has no resolved type. -/
def resolveType (registry : Registry) (field : FieldName) (row : Row) :
    Except Error (Option TargetType) :=
  match declared? row with
  | none => .ok none
  | some declared =>
    match registry.lookup? declared with
    | none => .error (.unknownType field declared)
    | some domain => do
      let length ← lengthLimit field row
      let type ← refine domain field row
      .ok (some {
        type
        length := length.or domain.length?
        autoCreateTime := domain.refinement = .temporal && isSet row autoCreateColumn
        importPath := domain.importPath? })

/-- Whether a field is a relationship. -/
def isDotted (field : String) : Bool := field.toList.contains '.'

/-- What resolution found out about a field. -/
structure FieldResolution where
  spec : TypedField
  importPath : Option String := none
  /-- The declared type, if it is unknown. -/
  unknown? : Option String := none
  /-- Columns that were left out. -/
  dropped : List String

/-- Resolve a field of a model. -/
def resolveField (registry : Registry) (owner : ModelName) (field : String) (row : Row) :
    Except Error FieldResolution :=
  let spec := { TypedField.ofRow row with primaryKey := isSet row primaryColumn }
  let dropped := TypedField.droppedColumns row
  if isDotted field then .ok { spec, dropped }
  else
    match resolveType registry ⟨owner, field⟩ row with
    | .ok none => .ok { spec, dropped }
    | .ok (some resolved) =>
      .ok {
        spec := { spec with
          type := some resolved.type
          length := resolved.length
          autoCreateTime := resolved.autoCreateTime }
        importPath := resolved.importPath
        dropped }
    | .error (.unknownType _ declared) => .ok { spec, unknown? := some declared, dropped }
    | .error error => .error error

/-! ## Whole schemas -/

/-- Resolutions of all fields of all models. -/
abbrev Resolutions := Packages (OrderedMap FieldResolution)

/-- Resolve every field of a schema; the first error in schema order wins. -/
def resolve (registry : Registry) (schema : RawSchema) : Except Error Resolutions :=
  schema.traverseModels fun owner fields => fields.traverse (resolveField registry owner)

namespace Resolutions

/-- The typed schema of the resolutions. -/
def schema (resolutions : Resolutions) : TypedSchema :=
  resolutions.mapModels fun _ fields => fields.map fun _ field => field.spec

/-- All fields in schema order. -/
def fields (resolutions : Resolutions) : List (FieldName × FieldResolution) :=
  resolutions.models.flatMap fun (owner, fields) =>
    fields.entries.map fun (field, resolution) => (⟨owner, field⟩, resolution)

/-- Imports that the resolved types need. -/
def imports (resolutions : Resolutions) : Imports :=
  resolutions.models.foldl
    (fun table (owner, fields) =>
      table.addAll owner.qualified (fields.values.filterMap FieldResolution.importPath))
    Imports.empty

/-- One finding for every field of an unknown type. -/
def diagnostics (resolutions : Resolutions) : List Diagnostic :=
  resolutions.fields.filterMap fun (field, resolution) =>
    resolution.unknown?.map fun declared => ⟨field, declared⟩

/-- Warnings about dropped columns and unknown types. -/
def warnings (resolutions : Resolutions) : List Warning :=
  resolutions.fields.flatMap fun (field, resolution) =>
    resolution.dropped.map Warning.columnDropped
      ++ (resolution.unknown?.map fun declared => Warning.unknownType field declared).toList

end Resolutions

end Typing

end SheetSchema
