import SheetSchema.Proofs.Manifest.Coverage

/-!
# Documents that agree

The check walks along the order and asks the other documents about one name after the other. What it
asks for can be said of the documents as they are: the order lists the keys of the manifest, each
once, and the schema and the routes have every model that an entry is about. An emitter passes over
names that cannot be resolved; in documents that agree there are none.
-/

namespace SheetSchema

namespace Emission

variable {context : Emission}

/-- The three documents agree with each other. -/
structure Agrees (context : Emission) : Prop where
  distinct : context.manifest.order.Nodup
  ordered : ∀ name, name ∈ context.manifest.order ↔ name ∈ context.manifest.models.keys
  described : ∀ key entry, context.manifest.models.get? key = some entry →
    entry.name ∈ context.schema.names ∧ entry.name ∈ context.routes.names

/-- What an emitter sees under a name: its entry, and the fields and routes of the model that the
entry is about. -/
structure Emits (context : Emission) (name : String) (emitted : EmittedModel) : Prop where
  entry : context.manifest.models.get? name = some emitted.manifest
  fields : context.schema.model? emitted.manifest.name = some emitted.fields
  routes : context.routes.model? emitted.manifest.name = some emitted.routes

theorem emits_iff {name : String} {emitted : EmittedModel} :
    context.Emits name emitted ↔ context.model? name = some emitted := by
  rw [model?_eq_some_iff]
  exact ⟨fun h => ⟨h.entry, h.fields, h.routes⟩, fun h => ⟨h.1, h.2.1, h.2.2⟩⟩

/-- A name is described if it has an entry about a model of the schema and the routes. -/
theorem isSome_model?_iff {name : String} :
    (context.model? name).isSome ↔
      ∃ entry, context.manifest.models.get? name = some entry ∧
        entry.name ∈ context.schema.names ∧ entry.name ∈ context.routes.names := by
  simp only [Option.isSome_iff_exists, model?_eq_some_iff, Packages.mem_names_iff]
  constructor
  · intro h
    obtain ⟨emitted, hentry, hfields, hroutes⟩ := h
    exact ⟨emitted.manifest, hentry, ⟨_, hfields⟩, ⟨_, hroutes⟩⟩
  · intro h
    obtain ⟨entry, hentry, ⟨fields, hfields⟩, ⟨routes, hroutes⟩⟩ := h
    exact ⟨⟨entry, fields, routes⟩, hentry, hfields, hroutes⟩

theorem check_eq_ok_iff_agrees : context.check = .ok () ↔ context.Agrees := by
  rw [check_eq_ok_iff_fits]
  constructor
  · intro h
    obtain ⟨hdistinct, hdescribed, hordered⟩ := h
    refine ⟨hdistinct, fun name => ⟨fun hname => ?_, hordered name⟩, ?_⟩
    · obtain ⟨entry, hentry, -⟩ := isSome_model?_iff.1 (hdescribed name hname)
      exact OrderedMap.mem_keys_of_get? hentry
    · -- a key is ordered, so its entry is the one that was asked about
      intro key entry hentry
      have hkey : key ∈ context.manifest.order := hordered key (OrderedMap.mem_keys_of_get? hentry)
      obtain ⟨entry', hentry', hmodel⟩ := isSome_model?_iff.1 (hdescribed key hkey)
      obtain rfl : entry' = entry := Option.some.inj (hentry'.symm.trans hentry)
      exact hmodel
  · intro h
    refine ⟨h.distinct, fun name hname => ?_, fun name => (h.ordered name).2⟩
    obtain ⟨entry, hentry⟩ := OrderedMap.mem_keys_iff.1 ((h.ordered name).1 hname)
    exact isSome_model?_iff.2 ⟨entry, hentry, h.described name entry hentry⟩

/-- Where the documents agree, the models that are emitted stand where their names are ordered. -/
theorem Agrees.emits (agrees : context.Agrees) :
    List.Forall₂ context.Emits context.manifest.order context.models := by
  have hdescribed := (check_eq_ok_iff_fits.1 (check_eq_ok_iff_agrees.2 agrees)).2.1
  exact (forall₂_models hdescribed).imp fun _ _ => emits_iff.2

/-- The check passes exactly on documents that agree. Then as many models are emitted as names are
ordered, and in each place the model of the name that is ordered there. -/
theorem passes_iff_agrees (context : Emission) :
    (context.check = .ok () ↔ context.Agrees) ∧
      (context.check = .ok () →
        context.models.length = context.manifest.order.length ∧
          ∀ (i : ℕ) (name : String), context.manifest.order[i]? = some name →
            ∃ emitted, context.models[i]? = some emitted ∧ context.Emits name emitted) := by
  refine ⟨check_eq_ok_iff_agrees, fun passes => ?_⟩
  -- no name is passed over, so places in the order are places among the models
  obtain ⟨hlength, hplaces⟩ := List.forall₂_iff_get.1 (check_eq_ok_iff_agrees.1 passes).emits
  refine ⟨hlength.symm, fun i name hname => ?_⟩
  obtain ⟨hi, rfl⟩ := List.getElem?_eq_some_iff.1 hname
  have hi' : i < context.models.length := hlength ▸ hi
  exact ⟨_, List.getElem?_eq_getElem hi', hplaces i hi hi'⟩

end Emission

namespace Directory

/-- In a directory whose models have keys of their own the second model is the one of the second
name. -/
theorem emits_profiles_second :
    (context [("users.User", "User"), ("users.Profile", "Profile")]).check = .ok () ∧
      ∃ emitted,
        (context [("users.User", "User"), ("users.Profile", "Profile")]).models[1]? = some emitted ∧
          (context [("users.User", "User"), ("users.Profile", "Profile")]).Emits
            "users.Profile" emitted := by
  have hpasses :
      (context [("users.User", "User"), ("users.Profile", "Profile")]).check = .ok () := by
    decide +kernel
  exact ⟨hpasses, ((Emission.passes_iff_agrees _).2 hpasses).2 1 "users.Profile" rfl⟩

end Directory

end SheetSchema
