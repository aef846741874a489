import SheetSchema.Error

/-!
# Partials

A field named `partials.<Name>` stands for the fields of the partial of that name, which may refer
to further partials. Inlining replaces every such field, depth first and at its place, and then
the last of several rows for one field counts. A partial that is reached while it is being inlined
is an error, so inlining ends: fewer partials are left to enter at every step down.
-/

namespace SheetSchema

/-- The partial that a field stands for, if it stands for one. -/
def partialName? (field : String) : Option String :=
  (Names.partialMark.toList.isPrefixOf? field.toList).map String.ofList

namespace Partials

/-- Partials that are not being inlined. -/
def outside (partials : Partials) (stack : List String) : List String :=
  partials.keys.filter fun name => name ∉ stack

theorem length_outside_lt {partials : Partials} {stack : List String} {name : String}
    (known : name ∈ partials.keys) (fresh : name ∉ stack) :
    (partials.outside (stack ++ [name])).length < (partials.outside stack).length := by
  have entered : partials.outside (stack ++ [name]) =
      (partials.outside stack).filter fun other => other ≠ name := by
    unfold outside
    rw [List.filter_filter]
    refine List.filter_congr fun other _ => ?_
    simp [not_or, and_comm]
  rw [entered]
  refine List.length_filter_lt_length_iff_exists.2 ⟨name, ?_, by simp⟩
  exact List.mem_filter.2 ⟨known, by simpa using fresh⟩

/-- Write the fields of a model, or of a partial inside it, into `fields`. The partials being
inlined are `stack`, outermost first. -/
def inlineInto (partials : Partials) (model : ModelName) (stack : List String)
    (fields : RawModel) : List (String × Row) → Except Error RawModel
  | [] => .ok fields
  | (field, row) :: rest =>
    match partialName? field with
    | none => inlineInto partials model stack (fields.insert field row) rest
    | some name =>
      if _fresh : name ∈ stack then .error (.partialCycle name stack model)
      else
        match _known : partials.get? name with
        | none => .error (.unresolvedPartial name model)
        | some inner =>
          match inlineInto partials model (stack ++ [name]) fields inner.entries with
          | .error error => .error error
          | .ok fields => inlineInto partials model stack fields rest
termination_by rows => ((partials.outside stack).length, rows.length)
decreasing_by
  · exact Prod.Lex.right _ (by simp)
  · exact Prod.Lex.left _ _ (length_outside_lt (OrderedMap.mem_keys_of_get? _known) _fresh)
  · exact Prod.Lex.right _ (by simp)

/-- Inline the partials of one model. -/
def inlineModel (partials : Partials) (model : ModelName) (fields : RawModel) :
    Except Error RawModel :=
  partials.inlineInto model [] OrderedMap.empty fields.entries

/-- Inline the partials of every model; the first error in schema order wins. -/
def inlineSchema (partials : Partials) (schema : RawSchema) : Except Error RawSchema :=
  schema.traverseModels partials.inlineModel

end Partials

end SheetSchema
