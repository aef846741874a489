import SheetSchema.Manifest
import SheetSchema.Proofs.OrderedMap
import SheetSchema.Proofs.Packages
import SheetSchema.Proofs.Runs

/-!
# The check of the documents

The check passes exactly on documents that fit: no name is ordered twice, every ordered name is
described by all three documents, and every described name is ordered. Then an emitter sees one
model for every ordered name.
-/

namespace SheetSchema

namespace Emission

variable {context : Emission}

/-- A name is described if the manifest has an entry for it, and the schema and the routes have
the model of the entry. -/
theorem model?_eq_some_iff {qualified : String} {emitted : EmittedModel} :
    context.model? qualified = some emitted ↔
      context.manifest.models.get? qualified = some emitted.manifest ∧
        context.schema.model? emitted.manifest.name = some emitted.fields ∧
        context.routes.model? emitted.manifest.name = some emitted.routes := by
  unfold model?
  constructor
  · intro hfound
    simp only [Option.bind_eq_bind, Option.bind_eq_some_iff] at hfound
    obtain ⟨manifest, hmanifest, fields, hfields, routes, hroutes, heq⟩ := hfound
    simp only [Option.some.injEq] at heq
    subst heq
    exact ⟨hmanifest, hfields, hroutes⟩
  · intro h
    obtain ⟨hmanifest, hfields, hroutes⟩ := h
    simp [hmanifest, hfields, hroutes]

/-- What the check of one name says. -/
theorem checkNext_eq_ok_iff {ordered next : OrderedSet} {qualified : String} :
    context.checkNext ordered qualified = .ok next ↔
      qualified ∉ ordered.items ∧ (context.model? qualified).isSome ∧
        ordered.insert qualified = next := by
  unfold checkNext model?
  by_cases hordered : ordered.contains qualified = true
  · have hmem := OrderedSet.contains_iff.1 hordered
    simp [hordered, hmem]
  · have habsent : qualified ∉ ordered.items := fun hmem =>
      hordered (OrderedSet.contains_iff.2 hmem)
    rw [if_neg hordered]
    -- the three documents are asked one after the other
    cases hmanifest : context.manifest.models.get? qualified with
    | none => simp
    | some manifest =>
      cases hfields : context.schema.model? manifest.name with
      | none => simp [hfields]
      | some fields =>
        cases hroutes : context.routes.model? manifest.name with
        | none => simp [hfields, hroutes]
        | some routes => simp [hfields, hroutes, habsent]

/-- What a run of checks says: the names are new and described, and they are taken up in order. -/
theorem foldlM_checkNext_eq_ok_iff {names : List String} {ordered final : OrderedSet} :
    names.foldlM context.checkNext ordered = .ok final ↔
      (ordered.items ++ names).Nodup ∧ (∀ name ∈ names, (context.model? name).isSome) ∧
        final.items = ordered.items ++ names := by
  induction names generalizing ordered with
  | nil =>
    rw [List.foldlM_nil, List.append_nil]
    constructor
    · intro hdone
      have hsame : ordered = final := by simpa [pure, Except.pure] using hdone
      exact ⟨ordered.nodup, by simp, by rw [hsame]⟩
    · intro h
      obtain ⟨-, -, hitems⟩ := h
      rw [OrderedSet.eq_of_items hitems]
      rfl
  | cons name rest ih =>
    rw [List.foldlM_cons, bind_eq_ok_iff]
    constructor
    · intro h
      obtain ⟨next, hname, hrest⟩ := h
      obtain ⟨hnew, hdescribed, rfl⟩ := checkNext_eq_ok_iff.1 hname
      obtain ⟨hnodup, hall, hitems⟩ := ih.1 hrest
      rw [OrderedSet.items_insert_of_notMem hnew, List.append_assoc] at hnodup hitems
      refine ⟨hnodup, ?_, hitems⟩
      intro other hother
      rcases List.mem_cons.1 hother with rfl | hmem
      · exact hdescribed
      · exact hall other hmem
    · intro h
      obtain ⟨hnodup, hall, hitems⟩ := h
      -- a name among the ordered ones would come twice in the whole list
      have hnew : name ∉ ordered.items := by
        intro hmem
        exact (List.nodup_append.1 hnodup).2.2 name hmem name List.mem_cons_self rfl
      refine ⟨ordered.insert name, ?_, ih.2 ⟨?_, ?_, ?_⟩⟩
      · exact checkNext_eq_ok_iff.2 ⟨hnew, hall name List.mem_cons_self, rfl⟩
      · rwa [OrderedSet.items_insert_of_notMem hnew, List.append_assoc]
      · exact fun other hother => hall other (List.mem_cons_of_mem _ hother)
      · rwa [OrderedSet.items_insert_of_notMem hnew, List.append_assoc]

/-- The documents fit exactly if no name is ordered twice, every ordered name is described, and
every name in the manifest is ordered. -/
theorem check_eq_ok_iff_fits :
    context.check = .ok () ↔
      context.manifest.order.Nodup ∧
        (∀ name ∈ context.manifest.order, (context.model? name).isSome) ∧
        ∀ name ∈ context.manifest.models.keys, name ∈ context.manifest.order := by
  unfold check
  rw [bind_eq_ok_iff]
  constructor
  · intro h
    obtain ⟨ordered, hrun, hrest⟩ := h
    obtain ⟨hnodup, hall, hitems⟩ := foldlM_checkNext_eq_ok_iff.1 hrun
    -- the names taken up are the whole order, so the last test asks for membership in it
    have horder : ordered.items = context.manifest.order := by simpa [OrderedSet.empty] using hitems
    refine ⟨by simpa [OrderedSet.empty] using hnodup, hall, ?_⟩
    split at hrest
    · contradiction
    · next hnone =>
      intro name hname
      have hordered := List.find?_eq_none.1 hnone name hname
      rw [← horder, ← OrderedSet.contains_iff]
      simpa using hordered
  · intro h
    obtain ⟨hnodup, hall, hkeys⟩ := h
    refine ⟨⟨context.manifest.order, hnodup⟩, ?_, ?_⟩
    · exact foldlM_checkNext_eq_ok_iff.2
        ⟨by simpa [OrderedSet.empty] using hnodup, hall, by simp [OrderedSet.empty]⟩
    · have hnone : (context.manifest.models.keys.find? fun qualified =>
          !(⟨context.manifest.order, hnodup⟩ : OrderedSet).contains qualified) = none := by
        rw [List.find?_eq_none]
        intro name hname
        simpa using OrderedSet.contains_iff.2 (hkeys name hname)
      rw [hnone]

/-- Where every ordered name is described, an emitter sees one model for each, in order. -/
theorem forall₂_models (hall : ∀ name ∈ context.manifest.order, (context.model? name).isSome) :
    List.Forall₂ (fun name emitted => context.model? name = some emitted)
      context.manifest.order context.models := by
  unfold models
  generalize context.manifest.order = order at hall ⊢
  induction order with
  | nil => exact List.Forall₂.nil
  | cons name rest ih =>
    obtain ⟨emitted, hemitted⟩ := Option.isSome_iff_exists.1 (hall name List.mem_cons_self)
    rw [List.filterMap_cons_some hemitted]
    exact List.Forall₂.cons hemitted
      (ih fun other hother => hall other (List.mem_cons_of_mem _ hother))

end Emission

end SheetSchema
