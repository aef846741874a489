import SheetSchema.Settings.Compiler
import SheetSchema.Text.Identifier
import SheetSchema.Typing.Resolution

/-!
# Relationships

A field with a dotted name `<package>.<Model>` points at another model. It becomes two fields: a
reference `<Model>`, whose type is the other model, and an identifier `<Model>Id`, which keeps the
columns of the row. No two fields of a model may become the same field. The expanded schema comes
with the hierarchy of models that the relationships span and with the imports that they need.
-/

namespace SheetSchema

/-- The target of a relationship. Names without a dot are no relationships; others must be a
package, a dot and an identifier. -/
def ModelName.ofKey? (key : String) : Option (Except Error ModelName) :=
  match key.toList.span (· != '.') with
  | (_, []) => none
  | (package, _ :: model) =>
    let model := String.ofList model
    some <|
      if package.isEmpty || !Text.isIdentifier model then .error (.malformedRelationship key)
      else .ok ⟨String.ofList package, model⟩

namespace Relations

/-- Constraint of every reference. -/
def cascadeDelete : String := "OnDelete:CASCADE"

/-- Type declared by every identifier field. -/
def identifierType : String := "uuid"

/-- Name of the identifier field of a relationship. -/
def identifierName (target : ModelName) : String := target.model ++ "Id"

/-- The reference half of a relationship. -/
def referenceField (owner target : ModelName) : TypedField where
  columns := OrderedMap.empty
  type := some (if target.package = owner.package then target.model else target.qualified)
  references := some target.qualified
  constraint := some cascadeDelete

/-- The identifier half of a relationship. -/
def identifierField (field : TypedField) : TypedField :=
  { field with
    columns := field.columns.insert Typing.typeColumn (.text identifierType)
    type := some Target.uuid
    length := none
    autoCreateTime := false }

/-- The fields that one field becomes. -/
def expandField (owner : ModelName) (name : String) (field : TypedField) :
    Except Error (List (String × TypedField)) :=
  match ModelName.ofKey? name with
  | none => .ok [(name, field)]
  | some (.error error) => .error error
  | some (.ok target) =>
    .ok [(target.model, referenceField owner target),
      (identifierName target, identifierField field)]

/-- Add a field that comes from `source`; its name must be new. -/
def addOutput (owner : ModelName) (source : String) (outputs : OrderedMap (String × TypedField))
    (output : String × TypedField) : Except Error (OrderedMap (String × TypedField)) :=
  match outputs.get? output.1 with
  | some (previous, _) => .error (.outputCollision owner previous source output.1)
  | none => .ok (outputs.insert output.1 (source, output.2))

/-- Expand one field and add what it becomes. -/
def addExpansion (owner : ModelName) (outputs : OrderedMap (String × TypedField))
    (entry : String × TypedField) : Except Error (OrderedMap (String × TypedField)) := do
  (← expandField owner entry.1 entry.2).foldlM (addOutput owner entry.1) outputs

/-- Expand the relationships of one model. -/
def expandModel (owner : ModelName) (fields : TypedModel) : Except Error TypedModel := do
  let outputs ← fields.entries.foldlM (addExpansion owner) OrderedMap.empty
  .ok (outputs.map fun _ (_, field) => field)

/-- Expand the relationships of every model; the first error in schema order wins. -/
def expandSchema (schema : TypedSchema) : Except Error TypedSchema :=
  schema.traverseModels expandModel

/-! ## What relationships add -/

/-- The relationships of a model: the dotted names of its fields with their targets. -/
def targets (fields : TypedModel) : List (String × ModelName) :=
  fields.keys.filterMap fun name =>
    match ModelName.ofKey? name with
    | some (.ok target) => some (name, target)
    | _ => none

/-- Imports that a relationship needs: the package of its target, unless it is the same, and the
one of identifiers. -/
def importsOf (config : CompilerSettings) (owner target : ModelName) : List String :=
  (if target.package = owner.package then [] else [config.importPathOf target.package])
    ++ [Target.uuidImport]

/-- The table with the imports that the relationships of a schema need. -/
def addImports (config : CompilerSettings) (schema : TypedSchema) (imports : Imports) :
    Imports :=
  schema.models.foldl
    (fun imports (owner, fields) =>
      imports.addAll owner.qualified
        ((targets fields).flatMap fun (_, target) => importsOf config owner target))
    imports

/-- The hierarchy that the relationships of a schema span. -/
def hierarchy (schema : TypedSchema) : Hierarchy :=
  schema.models.foldl
    (fun graph (owner, fields) =>
      (targets fields).foldl
        (fun graph (_, target) => graph.connect target.qualified owner.qualified) graph)
    Hierarchy.empty

/-- A warning for every relationship whose target is not in the schema. -/
def warnings (schema : TypedSchema) : List Warning :=
  schema.models.flatMap fun (owner, fields) =>
    (targets fields).filterMap fun (field, target) =>
      if (schema.model? target).isNone then some (.undefinedTarget ⟨owner, field⟩ target)
      else none

end Relations

end SheetSchema
