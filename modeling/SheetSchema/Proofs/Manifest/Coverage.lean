import Mathlib.Data.List.Count
import Mathlib.Data.List.Perm.Basic
import Mathlib.Data.Option.Basic
import SheetSchema.Proofs.Blocks
import SheetSchema.Proofs.Manifest.Check

/-!
# What the check of the documents covers

The check starts from the order and looks every name up in the other documents. It does not look
from the schema back to the manifest, and it does not compare entries with each other: a model that
no entry describes is not missed, and a model that two entries describe is emitted twice. So from
documents that pass, a model of the schema is emitted as often as entries describe it.
-/

namespace SheetSchema

/-! ## Counting -/

/-- A list without repetitions has one member of a kind if there is exactly one. -/
theorem countP_eq_one_iff_of_nodup {α : Type} {items : List α} (distinct : items.Nodup)
    (p : α → Prop) [DecidablePred p] : items.countP p = 1 ↔ ∃! item, item ∈ items ∧ p item := by
  rw [List.countP_eq_length_filter, List.length_eq_one_iff]
  have hmem : ∀ item,
      item ∈ items.filter (fun item => decide (p item)) ↔ item ∈ items ∧ p item := by
    intro item
    rw [List.mem_filter, decide_eq_true_iff]
  constructor
  · intro h
    obtain ⟨item, hitem⟩ := h
    refine ⟨item, (hmem item).1 (by rw [hitem]; exact List.mem_singleton_self item), ?_⟩
    intro other hother
    have hfound : other ∈ items.filter fun item => decide (p item) := (hmem other).2 hother
    rw [hitem] at hfound
    exact List.mem_singleton.1 hfound
  · intro h
    obtain ⟨item, hitem, honly⟩ := h
    refine ⟨item, List.perm_singleton.1 ?_⟩
    refine (List.perm_ext_iff_of_nodup (distinct.filter _) (List.nodup_singleton item)).2
      fun other => ?_
    rw [hmem, List.mem_singleton]
    constructor
    · exact honly other
    · rintro rfl
      exact hitem

/-! ## Described models -/

/-- The entry under a key is about this model. -/
def Manifest.Describes (manifest : Manifest) (key : String) (name : ModelName) : Prop :=
  (manifest.models.get? key).map ModelEntry.name = some name

instance (manifest : Manifest) (key : String) (name : ModelName) :
    Decidable (manifest.Describes key name) :=
  inferInstanceAs (Decidable (_ = _))

/-- A model is described under exactly one key. -/
def Manifest.DescribesOnce (manifest : Manifest) (name : ModelName) : Prop :=
  ∃! key, manifest.Describes key name

namespace Manifest

variable {manifest : Manifest}

theorem Describes.mem_keys {key : String} {name : ModelName}
    (describes : manifest.Describes key name) : key ∈ manifest.models.keys := by
  obtain ⟨entry, hentry, -⟩ := Option.map_eq_some_iff.1 describes
  exact OrderedMap.mem_keys_of_get? hentry

/-- Keys are counted where entries are. -/
theorem describesOnce_iff {name : ModelName} :
    manifest.DescribesOnce name ↔ (manifest.models.values.map ModelEntry.name).count name = 1 := by
  have hcount : (manifest.models.values.map ModelEntry.name).count name =
      manifest.models.keys.countP fun key => manifest.Describes key name := by
    calc (manifest.models.values.map ModelEntry.name).count name
        = (manifest.models.values.map fun entry => some entry.name).count (some name) := by
          rw [← List.count_map_of_injective _ _ (Option.some_injective _), List.map_map]
          rfl
      _ = ((manifest.models.keys.map manifest.models.get?).map
            (Option.map ModelEntry.name)).count (some name) := by
          rw [OrderedMap.map_get?_keys, List.map_map]
          rfl
      _ = manifest.models.keys.countP fun key => manifest.Describes key name := by
          rw [List.map_map, List.count, List.countP_map]
          refine List.countP_congr fun key _ => ?_
          simp [Describes]
  rw [hcount, countP_eq_one_iff_of_nodup manifest.models.nodup_keys]
  unfold DescribesOnce
  refine existsUnique_congr fun key => ?_
  exact (and_iff_right_of_imp Describes.mem_keys).symm

end Manifest

namespace Emission

variable {context : Emission}

/-- Names of the models that an emitter sees, in order. -/
def emittedNames (context : Emission) : List ModelName :=
  context.models.map fun emitted => emitted.manifest.name

/-- Every entry of the manifest is emitted once. -/
theorem perm_values_of_check (fits : context.check = .ok ()) :
    (context.models.map EmittedModel.manifest).Perm context.manifest.models.values := by
  obtain ⟨hnodup, hdescribed, hordered⟩ := check_eq_ok_iff_fits.1 fits
  have hkeys : context.manifest.order.Perm context.manifest.models.keys := by
    refine (List.perm_ext_iff_of_nodup hnodup context.manifest.models.nodup_keys).2 fun key => ?_
    constructor
    · intro hkey
      obtain ⟨emitted, hseen⟩ := Option.isSome_iff_exists.1 (hdescribed key hkey)
      exact OrderedMap.mem_keys_of_get? (model?_eq_some_iff.1 hseen).1
    · exact hordered key
  -- what is seen under an ordered name has the entry of that name
  have hentries : context.manifest.order.map context.manifest.models.get? =
      (context.models.map EmittedModel.manifest).map some := by
    rw [List.map_map]
    refine map_eq_map_of_forall₂ ((forall₂_models hdescribed).imp fun key emitted seen => ?_)
    exact (model?_eq_some_iff.1 seen).1
  have hperm := hkeys.map context.manifest.models.get?
  rw [hentries, OrderedMap.map_get?_keys] at hperm
  exact (List.map_perm_map_iff (Option.some_injective _)).1 hperm

/-- A context that passes emits what its entries are about, in another order. -/
theorem perm_emittedNames (fits : context.check = .ok ()) :
    context.emittedNames.Perm (context.manifest.models.values.map ModelEntry.name) := by
  have hperm := (perm_values_of_check fits).map ModelEntry.name
  rw [List.map_map] at hperm
  exact hperm

theorem mem_names_of_mem_emittedNames {name : ModelName} (emitted : name ∈ context.emittedNames) :
    name ∈ context.schema.names := by
  obtain ⟨model, hmodel, rfl⟩ := List.mem_map.1 emitted
  obtain ⟨key, -, hseen⟩ := List.mem_filterMap.1 hmodel
  exact Packages.mem_names_iff.2 ⟨model.fields, (model?_eq_some_iff.1 hseen).2.1⟩

/-- Where a context passes, a model is emitted once exactly if one entry is about it. -/
theorem count_emittedNames_eq_one_iff (fits : context.check = .ok ()) {name : ModelName} :
    context.emittedNames.count name = 1 ↔ context.manifest.DescribesOnce name := by
  rw [Manifest.describesOnce_iff, (perm_emittedNames fits).count_eq]

/-- From documents that pass the check only models of the schema are emitted, a model is emitted
once exactly if it is described once, and so the emitted models are those of the schema, each once,
exactly if the manifest describes every model of the schema under one key. -/
theorem emits_once_iff_described_once (fits : context.check = .ok ()) :
    (∀ name ∈ context.emittedNames, name ∈ context.schema.names) ∧
      (∀ name ∈ context.schema.names,
        context.emittedNames.count name = 1 ↔ context.manifest.DescribesOnce name) ∧
      (context.emittedNames.Perm context.schema.names ↔
        ∀ name ∈ context.schema.names, context.manifest.DescribesOnce name) := by
  refine ⟨fun _ => mem_names_of_mem_emittedNames,
    fun _ _ => count_emittedNames_eq_one_iff fits, ?_⟩
  constructor
  · intro hperm name hname
    rw [← count_emittedNames_eq_one_iff fits, hperm.count_eq]
    exact List.count_eq_one_of_mem (Packages.nodup_names _) hname
  · intro honce
    have hcount : ∀ name ∈ context.schema.names, context.emittedNames.count name = 1 :=
      fun name hname => (count_emittedNames_eq_one_iff fits).2 (honce name hname)
    -- a model that is emitted is one of the schema, so nothing is emitted twice
    have hnodup : context.emittedNames.Nodup := by
      refine List.nodup_iff_count_le_one.2 fun name => ?_
      by_cases hmem : name ∈ context.emittedNames
      · have hone : context.emittedNames.count name = 1 :=
          hcount name (mem_names_of_mem_emittedNames hmem)
        omega
      · have hzero : context.emittedNames.count name = 0 := List.count_eq_zero_of_not_mem hmem
        omega
    refine (List.perm_ext_iff_of_nodup hnodup (Packages.nodup_names _)).2 fun name => ?_
    constructor
    · exact mem_names_of_mem_emittedNames
    · intro hname
      refine List.count_pos_iff.1 ?_
      rw [hcount name hname]
      omega

end Emission

/-! ## A directory of users

Its schema has users and profiles.
-/

namespace Directory

/-- A manifest whose entries are about the models that are listed with their keys. -/
def manifest (entries : List (String × String)) : Manifest where
  modulePath := "example.com/app"
  order := entries.map Prod.fst
  models := .ofList (entries.map fun (key, model) =>
    (key, ⟨⟨"users", model⟩, Text.snakeCase model, [], []⟩))

/-- The documents of the directory with such a manifest. -/
def context (entries : List (String × String)) : Emission where
  schema := .ofList [("users", .ofList [("User", .empty), ("Profile", .empty)])]
  routes := .ofList [("users", .ofList [("User", default), ("Profile", default)])]
  manifest := manifest entries

/-- Where every model has its own key, both are emitted once. -/
theorem emits_users_and_profiles :
    (context [("users.User", "User"), ("users.Profile", "Profile")]).check = .ok () ∧
      (context [("users.User", "User"), ("users.Profile", "Profile")]).emittedNames.count
        ⟨"users", "Profile"⟩ = 1 := by
  have hfits : (context [("users.User", "User"), ("users.Profile", "Profile")]).check = .ok () := by
    decide +kernel
  refine ⟨hfits, ((Emission.emits_once_iff_described_once hfits).2.1 _ (by decide +kernel)).2 ?_⟩
  rw [Manifest.describesOnce_iff]
  decide +kernel

/-- Under a stale key users are described again and profiles are not described. The check passes,
users are emitted twice, and profiles are skipped. -/
theorem emits_users_twice :
    (context [("users.User", "User"), ("users.Account", "User")]).check = .ok () ∧
      (context [("users.User", "User"), ("users.Account", "User")]).schema.names =
        [⟨"users", "User"⟩, ⟨"users", "Profile"⟩] ∧
      (context [("users.User", "User"), ("users.Account", "User")]).emittedNames =
        [⟨"users", "User"⟩, ⟨"users", "User"⟩] := by
  refine ⟨?_, ?_, ?_⟩ <;> decide +kernel

end Directory

end SheetSchema
