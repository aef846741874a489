import SheetSchema.Schema.Basic

/-!
# Routes

For every model and action, the names of the fields that are permitted under the action, in the
order of the fields. An action without a field is left out.
-/

namespace SheetSchema

namespace TypedModel

/-- Permissions of the fields that have some. -/
def permissionTable (fields : TypedModel) : OrderedMap Permissions :=
  (fields.map fun _ field => field.api).filter fun _ api => !api.isEmpty

/-- Fields that a permission view permits under an action. -/
def permitted (view : OrderedMap Permissions) (action : Action) : List String :=
  (view.filter fun _ api => (api.get action).isSome).keys

/-- Routes of a model. -/
def routes (fields : TypedModel) : Routes :=
  let view := permissionTable fields
  Action.all.foldl (fun routes action => routes.permit action (permitted view action))
    PerAction.empty

end TypedModel

/-- Routes of every model of a schema. -/
def TypedSchema.routes (schema : TypedSchema) : RouteTable :=
  schema.mapModels fun _ fields => TypedModel.routes fields

end SheetSchema
