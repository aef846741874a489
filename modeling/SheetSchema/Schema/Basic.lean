import SheetSchema.Cell.Coercion
import SheetSchema.OrderedMap
import SheetSchema.Schema.Action

/-!
# Schemas

A schema holds packages of models, and a model holds fields. In the raw schema a field is the row
of cells that declared it; in the typed schema it also carries what was derived from the row.
-/

namespace SheetSchema

/-! ## Names -/

/-- A model within its package. -/
structure ModelName where
  package : String
  model : String
deriving DecidableEq

/-- The dotted name by which tables of models are keyed. -/
def ModelName.qualified (name : ModelName) : String := name.package ++ "." ++ name.model

/-- A field within its model. -/
structure FieldName where
  owner : ModelName
  field : String
deriving DecidableEq

/-- The dotted name of a field. -/
def FieldName.qualified (name : FieldName) : String := name.owner.qualified ++ "." ++ name.field

/-! ## Packages -/

/-- Something for every model of every package. -/
abbrev Packages (α : Type) := OrderedMap (OrderedMap α)

namespace Packages

variable {α β ε : Type}

/-- What is held for a model. -/
def model? (packages : Packages α) (name : ModelName) : Option α :=
  (packages.get? name.package).bind fun models => models.get? name.model

/-- All models, package by package. -/
def models (packages : Packages α) : List (ModelName × α) :=
  packages.entries.flatMap fun (package, models) =>
    models.entries.map fun (model, item) => (⟨package, model⟩, item)

/-- Apply a function to what is held for every model. -/
def mapModels (packages : Packages α) (f : ModelName → α → β) : Packages β :=
  packages.map fun package models => models.map fun model item => f ⟨package, model⟩ item

/-- Apply a fallible function for every model in order; the first failure wins. -/
def traverseModels (packages : Packages α) (f : ModelName → α → Except ε β) :
    Except ε (Packages β) :=
  packages.traverse fun package models => models.traverse fun model item =>
    f ⟨package, model⟩ item

end Packages

/-! ## Raw schemas -/

/-- Columns of a row with their cells. -/
abbrev Row := OrderedMap Cell

/-- Fields of a model or of a partial, each with the row that declared it. -/
abbrev RawModel := OrderedMap Row

/-- Models of one sheet. -/
abbrev RawPackage := OrderedMap RawModel

/-- Rows of every model of every package. -/
abbrev RawSchema := Packages RawModel

/-- Reusable groups of fields by name. -/
abbrev Partials := OrderedMap RawModel

/-- What the sheets of a workbook declare. -/
structure Extraction where
  schema : RawSchema
  partials : Partials

/-! ## Typed schemas -/

/-- A field once its type is resolved: the remaining columns of its row, and what was derived. -/
structure TypedField where
  columns : Row
  /-- Target type. -/
  type : Option String := none
  /-- Greatest length of a value. -/
  length : Option Nat := none
  /-- Value of a field that is not given. -/
  defaultValue : Option Cell := none
  primaryKey : Bool := false
  autoCreateTime : Bool := false
  /-- Dotted name of the model that the field points at. -/
  references : Option String := none
  constraint : Option String := none
  api : Permissions := .empty

/-- Fields of a model once their types are resolved. -/
abbrev TypedModel := OrderedMap TypedField

/-- Typed fields of every model of every package. -/
abbrev TypedSchema := Packages TypedModel

/-- Permitted fields of every model of every package. -/
abbrev RouteTable := Packages Routes

namespace TypedField

/-- Whether the field is the reference half of a relationship. -/
def isReference (field : TypedField) : Bool := field.references.isSome

/-- Slots of a field in its document, in order. A column of one of these names cannot be
kept beside them. -/
def reservedColumns : List String :=
  ["type", "Length", "DefaultValue", "primaryKey", "autoCreateTime", "references", "constraint",
    "api"]

/-- Column that gives the value of a field that is not given. -/
def defaultColumn : String := "DefaultValue"

/-- Lift a row into a field: the default value moves into its slot unless it is blank, and the
other reserved columns are left out. -/
def ofRow (row : Row) : TypedField where
  columns := row.filter fun column _ => !reservedColumns.contains column
  defaultValue := (row.get? defaultColumn).filter fun cell => !cell.isBlank

/-- Reserved columns of a row that are left out without a trace. -/
def droppedColumns (row : Row) : List String :=
  reservedColumns.filter fun column => column != defaultColumn && row.contains column

end TypedField

/-! ## Tables beside the schema -/

/-- Children of every parent, by dotted names: the hierarchy that relationships span. -/
abbrev Hierarchy := OrderedMap OrderedSet

namespace Hierarchy

/-- The hierarchy without an edge. -/
def empty : Hierarchy := OrderedMap.empty

/-- Record that `child` refers to `parent`. -/
def connect (graph : Hierarchy) (parent child : String) : Hierarchy :=
  graph.modify parent fun children => (children.getD {}).insert child

/-- Children of a model, if it is a parent. -/
def children? (graph : Hierarchy) (parent : String) : Option OrderedSet := graph.get? parent

/-- The edges, parent by parent. -/
def edges (graph : Hierarchy) : List (String × String) :=
  graph.entries.flatMap fun (parent, children) => children.items.map fun child => (parent, child)

/-- Parents of every child, in the order of the edges. -/
def parents (graph : Hierarchy) : OrderedMap (List String) :=
  graph.edges.foldl
    (fun table (parent, child) => table.modify child fun parents => parents.getD [] ++ [parent])
    OrderedMap.empty

/-- Whether some model is a parent of this one. -/
def hasParent (graph : Hierarchy) (model : String) : Bool :=
  graph.values.any fun children => children.contains model

end Hierarchy

/-- Imports of every model, by dotted names, in the order of first use. -/
abbrev Imports := OrderedMap OrderedSet

namespace Imports

/-- The table without an import. -/
def empty : Imports := OrderedMap.empty

/-- Add an import of a model. -/
def add (table : Imports) (model path : String) : Imports :=
  table.modify model fun imports => (imports.getD {}).insert path

/-- Add imports of a model, first to last. -/
def addAll (table : Imports) (model : String) (paths : List String) : Imports :=
  paths.foldl (fun table path => table.add model path) table

/-- Imports of a model. -/
def pathsOf (table : Imports) (model : String) : List String :=
  ((table.get? model).map OrderedSet.items).getD []

end Imports

end SheetSchema
