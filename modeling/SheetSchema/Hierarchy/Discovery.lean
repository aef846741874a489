import SheetSchema.Schema.Basic

/-!
# Discovery order

The order in which models are taken up where nothing else orders them: the last model of the
schema first.
-/

namespace SheetSchema

/-- Dotted names of the models, last model first. -/
def TypedSchema.discoveryOrder (schema : TypedSchema) : List String :=
  (schema.models.map fun (name, _) => name.qualified).reverse

end SheetSchema
