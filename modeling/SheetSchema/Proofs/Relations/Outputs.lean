import SheetSchema.Proofs.Hierarchy.Edges
import SheetSchema.Proofs.Relations.Faults

/-!
# Outputs of an expansion

Whether a schema expands depends on the names of its fields alone: dotted names must point at
models, and the names that the fields of one model produce must be distinct. A schema that expands
holds, model by model, what its fields become one after the other, none of it under a dotted name,
and its hierarchy has an edge for every dotted name.
-/

namespace SheetSchema

namespace Relations

open Typing

/-! ## Names of the outputs -/

/-- Names of the fields that a field becomes. A dotted name is cut at its first dot. -/
def outputNames (key : String) : List String :=
  match key.toList.dropWhile (· != '.') with
  | [] => [key]
  | _ :: model => [String.ofList model, String.ofList model ++ "Id"]

/-- A plain field keeps its name. -/
theorem outputNames_of_notMem {key : String} (undotted : '.' ∉ key.toList) :
    outputNames key = [key] := by
  rw [outputNames, ModelName.dropWhile_of_notMem undotted]

/-- A relationship becomes a reference and an identifier. -/
theorem outputNames_qualified {target : ModelName} (package : '.' ∉ target.package.toList) :
    outputNames target.qualified = [target.model, target.model ++ "Id"] := by
  rw [outputNames, ModelName.dropWhile_qualified package]
  show [String.ofList target.model.toList, String.ofList target.model.toList ++ "Id"] = _
  rw [String.ofList_toList]

/-- A dotted name is the dotted name of what it is cut into. -/
theorem exists_qualified_of_mem {key : String} (dotted : '.' ∈ key.toList) :
    ∃ target : ModelName, key = target.qualified ∧ '.' ∉ target.package.toList := by
  obtain ⟨before, after, hkey, hbefore⟩ := List.eq_append_cons_of_mem dotted
  refine ⟨⟨String.ofList before, String.ofList after⟩, ?_, by rwa [String.toList_ofList]⟩
  rw [← String.toList_inj, ModelName.toList_qualified, hkey, String.toList_ofList,
    String.toList_ofList]

theorem mem_outputNames_iff {key name : String} : name ∈ outputNames key ↔ Produces key name := by
  by_cases hdot : '.' ∈ key.toList
  · obtain ⟨target, rfl, hpackage⟩ := exists_qualified_of_mem hdot
    rw [outputNames_qualified hpackage, produces_qualified hpackage]
    simp
  · rw [outputNames_of_notMem hdot, produces_of_undotted hdot, List.mem_singleton]

theorem nodup_outputNames (key : String) : (outputNames key).Nodup := by
  by_cases hdot : '.' ∈ key.toList
  · obtain ⟨target, rfl, hpackage⟩ := exists_qualified_of_mem hdot
    rw [outputNames_qualified hpackage]
    simpa [identifierName] using model_ne_identifierName target
  · rw [outputNames_of_notMem hdot]
    exact List.nodup_singleton key

/-! ## Which schemas expand -/

/-- Names of the fields of a model that can be expanded. -/
structure ExpandableNames (keys : List String) : Prop where
  points : ∀ key ∈ keys, '.' ∈ key.toList → PointsAtModel key
  distinct : (keys.flatMap outputNames).Nodup

/-- Where names have no fault, dotted ones point at models and no two fields produce one name. -/
theorem expandableNames_iff {owner : ModelName} {keys : List String} (nodup : keys.Nodup) :
    ExpandableNames keys ↔ ∀ error, ¬ NameFault owner keys error := by
  constructor
  · intro hnames error hfault
    cases hfault with
    | @malformed key declared dotted malformed => exact malformed (hnames.points key declared dotted)
    | @collision first second name declared declared' differ produces produces' =>
      -- the common name would stand in the outputs of both fields
      have hblocks : List.Forall₂ (fun key names => names = outputNames key) keys
          (keys.map outputNames) := by
        rw [List.forall₂_map_right_iff, List.forall₂_same]
        exact fun _ _ => rfl
      have hdistinct := hnames.distinct
      rw [List.flatMap_def] at hdistinct
      exact differ (eq_of_nodup_flatten hblocks hdistinct declared declared'
        (fun names hnames => hnames ▸ mem_outputNames_iff.2 produces)
        (fun names hnames => hnames ▸ mem_outputNames_iff.2 produces'))
  · intro hnone
    refine ⟨?_, ?_⟩
    · intro key hkey hdot
      by_contra hpoints
      exact hnone _ (.malformed hkey hdot hpoints)
    · refine List.nodup_flatMap.2 ⟨fun key _ => nodup_outputNames key, ?_⟩
      refine nodup.imp_of_mem ?_
      intro first second hfirst hsecond hdiffer name hname hname'
      exact hnone _ (.collision hfirst hsecond hdiffer (mem_outputNames_iff.1 hname)
        (mem_outputNames_iff.1 hname'))

/-- A schema can be expanded: every model has names that can. -/
def Expandable (schema : TypedSchema) : Prop :=
  ∀ owner fields, schema.model? owner = some fields → ExpandableNames fields.keys

/-- A schema expands exactly if all its keys are targets and no two fields claim a name. -/
theorem exists_expandSchema_iff {schema : TypedSchema} :
    (∃ expanded, expandSchema schema = .ok expanded) ↔ Expandable schema := by
  have hmodels := Packages.traverseModels_failsExactly schema expandModel_failsExactly
  rw [expandSchema, hmodels.exists_ok_iff]
  constructor
  · intro hnone owner fields hfields
    have hsound : ∀ error, ¬ NameFault owner fields.keys error := fun error hfault =>
      hnone error ⟨owner, fields, hfields, hfault⟩
    exact (expandableNames_iff fields.nodup_keys).2 hsound
  · intro hexpandable error hfault
    obtain ⟨owner, fields, hfields, hfault⟩ := hfault
    exact (expandableNames_iff fields.nodup_keys).1 (hexpandable owner fields hfields) error hfault

/-! ## What a field becomes -/

/-- The identifier of a relationship is the field that declares it, but for its type. -/
structure IdentifierOf (field identifier : TypedField) : Prop where
  /-- The type column keeps its place; a new one goes to the end. -/
  keys : identifier.columns.keys =
    if "Type" ∈ field.columns.keys then field.columns.keys else field.columns.keys ++ ["Type"]
  columns : ∀ column, identifier.columns.get? column =
    if column = "Type" then some (.text "uuid") else field.columns.get? column
  rest : identifier = { field with
    columns := identifier.columns
    type := some "uuid.UUID"
    length := none
    autoCreateTime := false }

/-- The fields that a field of a model becomes. -/
inductive Becomes (owner : ModelName) : String × TypedField → List (String × TypedField) → Prop
  /-- A field without a dot in its name stays as it is. -/
  | field {key : String} {field : TypedField} (undotted : '.' ∉ key.toList) :
      Becomes owner (key, field) [(key, field)]
  /-- Any other field becomes a reference, which has its target and nothing else, and right after
  it an identifier. -/
  | relationship {target : ModelName} {field reference identifier : TypedField}
      (package : '.' ∉ target.package.toList) (model : '.' ∉ target.model.toList)
      (refers : reference = {
        columns := .empty
        type := some (if target.package = owner.package then target.model else target.qualified)
        references := some target.qualified
        constraint := some "OnDelete:CASCADE" })
      (identifies : IdentifierOf field identifier) :
      Becomes owner (target.qualified, field)
        [(target.model, reference), (target.model ++ "Id", identifier)]

theorem identifierOf_identifierField (field : TypedField) :
    IdentifierOf field (identifierField field) where
  keys := OrderedMap.keys_insert field.columns typeColumn (.text identifierType)
  columns column := OrderedMap.get?_insert field.columns typeColumn column (.text identifierType)
  rest := rfl

/-- What expanding does to one field. -/
theorem becomes_of_expandField {owner : ModelName} {key : String} {field : TypedField}
    {block : List (String × TypedField)} (done : expandField owner key field = .ok block) :
    Becomes owner (key, field) block := by
  rcases expandField_eq_ok done with ⟨hnone, rfl⟩ | ⟨target, htarget, rfl⟩
  · exact .field (ModelName.ofKey?_eq_none_iff.1 hnone)
  · obtain ⟨rfl, -, hpackage, hidentifier⟩ := ModelName.ofKey?_eq_ok_iff.1 htarget
    exact .relationship hpackage (ModelName.dot_notMem_of_isIdentifier hidentifier) rfl
      (identifierOf_identifierField field)

/-- The suffix of an identifier brings no dot into its name. -/
theorem dot_notMem_identifierName {model : String} (undotted : '.' ∉ model.toList) :
    '.' ∉ (model ++ "Id").toList := by
  rw [String.toList_append, List.mem_append, not_or]
  exact ⟨undotted, by decide⟩

/-- No output has a dot in its name. -/
theorem Becomes.undotted {owner : ModelName} {entry : String × TypedField}
    {block : List (String × TypedField)} (becomes : Becomes owner entry block) :
    ∀ output ∈ block, '.' ∉ output.1.toList := by
  cases becomes with
  | field undotted => simpa using undotted
  | relationship _ model _ _ =>
    intro output houtput
    rcases List.mem_pair.1 houtput with rfl | rfl
    · exact model
    · exact dot_notMem_identifierName model

/-! ## Expanded schemas -/

/-- What a schema is expanded into. -/
structure ExpandsInto (schema expanded : TypedSchema) : Prop where
  packages : expanded.keys = schema.keys
  names : expanded.names = schema.names
  /-- The fields of a model are what its fields become, one after the other. -/
  outputs : ∀ owner fields, schema.model? owner = some fields →
    ∃ outputs blocks, expanded.model? owner = some outputs ∧
      List.Forall₂ (Becomes owner) fields.entries blocks ∧ outputs.entries = blocks.flatten
  undotted : ∀ owner outputs, expanded.model? owner = some outputs →
    ∀ key ∈ outputs.keys, '.' ∉ key.toList

/-- A model that is expanded holds what its fields become. -/
theorem becomes_of_expandModel {owner : ModelName} {fields outputs : TypedModel}
    (done : expandModel owner fields = .ok outputs) :
    ∃ blocks, List.Forall₂ (Becomes owner) fields.entries blocks ∧
      outputs.entries = blocks.flatten := by
  obtain ⟨blocks, hblocks, hentries⟩ := entries_of_expandModel done
  exact ⟨blocks, hblocks.imp fun _ _ => becomes_of_expandField, hentries⟩

/-- No output of a model has a dot in its name. -/
theorem undotted_of_expandModel {owner : ModelName} {fields outputs : TypedModel}
    (done : expandModel owner fields = .ok outputs) : ∀ key ∈ outputs.keys, '.' ∉ key.toList := by
  obtain ⟨blocks, hblocks, hentries⟩ := becomes_of_expandModel done
  intro key hkey
  obtain ⟨output, houtput, rfl⟩ := List.mem_map.1 hkey
  rw [hentries] at houtput
  obtain ⟨block, hblock, hmem⟩ := List.mem_flatten.1 houtput
  obtain ⟨_, -, hbecomes⟩ := exists_mem_of_forall₂ hblocks.flip hblock
  exact hbecomes.undotted output hmem

/-- What expanding does to a schema, model by model. -/
theorem expandsInto_of_expandSchema {schema expanded : TypedSchema}
    (done : expandSchema schema = .ok expanded) : ExpandsInto schema expanded where
  packages := OrderedMap.keys_of_traverse done
  names := Packages.names_traverseModels done
  outputs owner fields hfields := by
    obtain ⟨outputs, houtputs, hmodel⟩ := Packages.exists_model?_of_traverseModels done hfields
    obtain ⟨blocks, hblocks, hentries⟩ := becomes_of_expandModel hmodel
    exact ⟨outputs, blocks, houtputs, hblocks, hentries⟩
  undotted owner outputs houtputs := by
    have hrel := Packages.model?_traverseModels done owner
    rw [houtputs] at hrel
    generalize schema.model? owner = fields at hrel
    cases hrel with
    | some hmodel => exact undotted_of_expandModel hmodel

/-! ## Edges -/

/-- The edges of the hierarchy are the dotted names of the fields: such a name is that of its
target. -/
theorem mem_edges_iff_dotted {schema : TypedSchema} (expandable : Expandable schema)
    {parent child : String} :
    (parent, child) ∈ (hierarchy schema).edges ↔
      ∃ owner fields, schema.model? owner = some fields ∧ owner.qualified = child ∧
        parent ∈ fields.keys ∧ '.' ∈ parent.toList := by
  rw [mem_edges_hierarchy]
  constructor
  · intro h
    obtain ⟨⟨owner, fields⟩, hmodel, ⟨key, target⟩, htarget, hedge⟩ := h
    obtain ⟨hkey, hpoints⟩ := mem_targets_iff.1 htarget
    obtain ⟨rfl, rfl⟩ := Prod.mk.inj hedge
    obtain ⟨rfl, -⟩ := ModelName.ofKey?_eq_ok_iff.1 hpoints
    exact ⟨owner, fields, Packages.mem_models_iff.1 hmodel, rfl, hkey, dot_mem_qualified target⟩
  · intro h
    obtain ⟨owner, fields, hmodel, rfl, hkey, hdotted⟩ := h
    obtain ⟨target, hpoints⟩ := (expandable owner fields hmodel).points parent hkey hdotted
    refine ⟨(owner, fields), Packages.mem_models_iff.2 hmodel, (parent, target), ?_, ?_⟩
    · exact mem_targets_iff.2 ⟨hkey, ModelName.ofKey?_eq_ok_iff.2 hpoints⟩
    · rw [← hpoints.1]

/-- A schema expands exactly if its dotted names point at models and the fields of each model
produce distinct names. Then every field is replaced by what it becomes, no output has a dot in its
name, and, as long as dotted names tell the models apart, a model has an edge from every dotted name
of its fields and no other. -/
theorem expands_field_by_field (schema : TypedSchema) :
    ((∃ expanded, expandSchema schema = .ok expanded) ↔ Expandable schema) ∧
      ∀ expanded, expandSchema schema = .ok expanded →
        ExpandsInto schema expanded ∧
          (∀ parent child, (parent, child) ∈ (hierarchy schema).edges ↔
            ∃ owner fields, schema.model? owner = some fields ∧ owner.qualified = child ∧
              parent ∈ fields.keys ∧ '.' ∈ parent.toList) ∧
          (schema.ToldApart → ∀ owner fields, schema.model? owner = some fields →
            ∀ parent, (parent, owner.qualified) ∈ (hierarchy schema).edges ↔
              parent ∈ fields.keys ∧ '.' ∈ parent.toList) := by
  refine ⟨exists_expandSchema_iff, fun expanded hdone => ?_⟩
  have hexpandable := exists_expandSchema_iff.1 ⟨expanded, hdone⟩
  refine ⟨expandsInto_of_expandSchema hdone, fun _ _ => mem_edges_iff_dotted hexpandable, ?_⟩
  intro hapart owner fields hfields parent
  rw [mem_edges_iff_dotted hexpandable]
  constructor
  · intro h
    obtain ⟨other, fields', hfields', hqualified, hkey, hdotted⟩ := h
    -- a model of the same dotted name is the model itself
    have hsame : other = owner :=
      hapart other (Packages.mem_names_iff.2 ⟨fields', hfields'⟩) owner
        (Packages.mem_names_iff.2 ⟨fields, hfields⟩) hqualified
    rw [hsame, hfields, Option.some.injEq] at hfields'
    exact ⟨hfields' ▸ hkey, hdotted⟩
  · intro h
    exact ⟨owner, fields, hfields, rfl, h⟩

end Relations

/-! ## A blog

Its posts point at a model of their own package and at one of another.
-/

namespace Blog

open Relations

/-- Author of a post, who is asked for by name. -/
def authorField : TypedField where
  columns := .ofList [("Label", .text "By"), ("Type", .text "user"), ("NotNull", .bool true)]
  primaryKey := true

/-- A field of a type. -/
def fieldOf (type : String) : TypedField := { columns := .empty, type := some type }

def post : TypedModel :=
  .ofList [("title", fieldOf "string"), ("accounts.User", authorField),
    ("blog.Category", fieldOf "string")]

/-- Categories and posts of the blog, and the users that write them. -/
def schema : TypedSchema :=
  .ofList [("accounts", .ofList [("User", .ofList [("id", fieldOf "uuid.UUID")])]),
    ("blog", .ofList [("Category", .ofList [("name", fieldOf "string")]), ("Post", post)])]

/-- The blog expands, and its posts are children of users and categories. -/
theorem expands_posts :
    ∃ expanded, expandSchema schema = .ok expanded ∧ ExpandsInto schema expanded ∧
      (∀ parent, (parent, "blog.Post") ∈ (hierarchy schema).edges ↔
        parent ∈ ["title", "accounts.User", "blog.Category"] ∧ '.' ∈ parent.toList) := by
  obtain ⟨expanded, hexpanded⟩ :=
    exists_of_isOk (show (expandSchema schema).isOk = true by decide +kernel)
  have hapart : schema.ToldApart := by
    unfold Packages.ToldApart
    decide +kernel
  obtain ⟨hinto, -, hedges⟩ := (expands_field_by_field schema).2 expanded hexpanded
  exact ⟨expanded, hexpanded, hinto, hedges hapart ⟨"blog", "Post"⟩ post rfl⟩

example : ((expandSchema schema).toOption.bind fun expanded =>
    (expanded.model? ⟨"blog", "Post"⟩).map OrderedMap.keys) =
      some ["title", "User", "UserId", "Category", "CategoryId"] := by decide +kernel

end Blog

end SheetSchema
