import SheetSchema.Proofs.Permissions
import SheetSchema.Routes

/-!
# Routes of a model

Routes are a projection: the list of an action names the fields that have a permission for it, and
an action for which no field has one is left out.
-/

namespace SheetSchema.TypedModel

/-- Names of the fields that have a permission for an action, in order. -/
def namesUnder (fields : TypedModel) (action : Action) : List String :=
  (fields.entries.filter fun entry => (entry.2.api.get action).isSome).map Prod.fst

/-- Leaving out the fields without permissions first makes no difference. -/
theorem permitted_permissionTable (fields : TypedModel) (action : Action) :
    permitted (permissionTable fields) action = namesUnder fields action := by
  have hentries : ((permissionTable fields).filter fun _ api => (api.get action).isSome).entries =
      ((fields.entries.map fun entry => (entry.1, entry.2.api)).filter fun entry =>
        !entry.2.isEmpty).filter fun entry => (entry.2.get action).isSome := rfl
  unfold permitted namesUnder
  rw [OrderedMap.keys, hentries, List.filter_filter, List.filter_map, List.map_map]
  congr 1
  refine List.filter_congr fun entry _ => ?_
  cases hsome : (entry.2.api.get action).isSome with
  | false => simp [hsome]
  | true =>
    -- a field with a permission for the action is not left out of the view
    have hnonempty := PerAction.isEmpty_eq_false_iff.2 ⟨action, hsome⟩
    simp [hsome, hnonempty]

theorem get_permit (routes : Routes) (action other : Action) (names : List String) :
    (routes.permit action names).get other =
      if other = action then (if names.isEmpty then none else some names)
      else routes.get other :=
  PerAction.get_put routes action other _

/-- The route of an action lists the names of its fields, if there are any. -/
theorem get_routes (fields : TypedModel) (action : Action) :
    (routes fields).get action =
      if (namesUnder fields action).isEmpty then none else some (namesUnder fields action) := by
  unfold routes
  rw [← permitted_permissionTable]
  cases action <;> simp [Action.all, get_permit]

/-- No field is listed twice. -/
theorem nodup_namesUnder (fields : TypedModel) (action : Action) :
    (namesUnder fields action).Nodup :=
  fields.nodup.sublist (List.filter_sublist.map Prod.fst)

theorem mem_namesUnder_iff {fields : TypedModel} {action : Action} {name : String} :
    name ∈ namesUnder fields action ↔
      ∃ field, fields.get? name = some field ∧ (field.api.get action).isSome = true := by
  unfold namesUnder
  rw [List.mem_map]
  constructor
  · intro h
    obtain ⟨⟨name', field⟩, hmem, rfl⟩ := h
    obtain ⟨hentry, hsome⟩ := List.mem_filter.1 hmem
    exact ⟨field, OrderedMap.mem_entries_iff.1 hentry, hsome⟩
  · intro h
    obtain ⟨field, hfound, hsome⟩ := h
    exact ⟨(name, field), List.mem_filter.2 ⟨OrderedMap.mem_entries_iff.2 hfound, hsome⟩, rfl⟩

/-! ## What a route lists -/

theorem eq_namesUnder_of_get_routes {fields : TypedModel} {action : Action} {names : List String}
    (found : (routes fields).get action = some names) : names = namesUnder fields action := by
  rw [get_routes] at found
  split at found
  · contradiction
  · exact (Option.some.inj found).symm

theorem getD_get_routes (fields : TypedModel) (action : Action) :
    ((routes fields).get action).getD [] = namesUnder fields action := by
  rw [get_routes]
  split
  · next hempty =>
    rw [List.isEmpty_iff.1 hempty]
    rfl
  · rfl

/-- An action is left out exactly if no field has a permission for it. -/
theorem get_routes_eq_none_iff {fields : TypedModel} {action : Action} :
    (routes fields).get action = none ↔
      ∀ name field, fields.get? name = some field → field.api.get action = none := by
  have hempty : (routes fields).get action = none ↔ namesUnder fields action = [] := by
    rw [get_routes, ← List.isEmpty_iff]
    split <;> simp [*]
  rw [hempty, List.eq_nil_iff_forall_not_mem]
  constructor
  · intro habsent name field hfield
    by_contra hsome
    exact habsent name (mem_namesUnder_iff.2 ⟨field, hfield, Option.isSome_iff_ne_none.2 hsome⟩)
  · intro hnone name hmem
    obtain ⟨field, hfield, hsome⟩ := mem_namesUnder_iff.1 hmem
    rw [hnone name field hfield] at hsome
    contradiction

end SheetSchema.TypedModel
