import SheetSchema.Proofs.Fields
import SheetSchema.Proofs.Imports
import SheetSchema.Proofs.Typing.FirstFault
import SheetSchema.Proofs.Typing.Rows

/-!
# Resolved schemas

A schema is resolved row by row. Its findings are those of its rows in order, a model imports what
the types of its rows need, and the first row with a column that cannot be read is the error.
-/

namespace SheetSchema.Typing

variable {registry : Registry} {schema : RawSchema} {resolutions : Resolutions}

/-! ## Results -/

/-- The finding about a row: it declares a type that is not registered. -/
def finding? (registry : Registry) (name : FieldName) (row : Row) : Option Diagnostic :=
  if '.' ∈ name.field.toList then none
  else ((declared? row).filter fun declared => (registry.lookup? declared).isNone).map fun declared =>
    ⟨name, declared⟩

/-- Every field of a schema is resolved from its row. -/
def ResolvedRows (registry : Registry) (schema : RawSchema) (resolutions : Resolutions) : Prop :=
  List.Forall₂ (fun entry entry' => entry'.1 = entry.1 ∧
      ResolvedRow registry entry.1 entry.2 entry'.2)
    (Packages.fields schema) resolutions.fields

/-- A schema that is resolved has a resolution for every row. -/
theorem resolvedRows_of_resolve (done : resolve registry schema = .ok resolutions) :
    ResolvedRows registry schema resolutions := by
  have hfields : schema.traverseFields (fun name row =>
      resolveField registry name.owner name.field row) = .ok resolutions := done
  refine (Packages.forall₂_of_traverseFields hfields).imp fun entry entry' h => ?_
  exact ⟨h.1, resolvedRow_of_resolveField h.2⟩

theorem fields_schema (resolutions : Resolutions) :
    Packages.fields resolutions.schema =
      resolutions.fields.map fun entry => (entry.1, entry.2.spec) :=
  Packages.fields_mapModels resolutions FieldResolution.spec

/-- An import stands for a field of some model of the dotted name. -/
theorem mem_pathsOf_imports_iff {model path : String} :
    path ∈ resolutions.imports.pathsOf model ↔
      ∃ entry ∈ resolutions.fields, entry.1.owner.qualified = model ∧
        entry.2.importPath = some path := by
  have hempty : Imports.empty.pathsOf model = [] := rfl
  rw [Imports.imports_resolutions, ← Imports.items_setOf, Imports.setOf_addModels,
    OrderedSet.mem_insertAll, Imports.items_setOf, hempty, or_iff_right List.not_mem_nil,
    List.mem_flatMap]
  constructor
  · intro h
    obtain ⟨⟨owner, fields⟩, hfields, hpath⟩ := h
    split at hpath
    · next hmodel =>
      obtain ⟨resolution, hresolution, himport⟩ := List.mem_filterMap.1 hpath
      obtain ⟨⟨field, _⟩, hfield, rfl⟩ := List.mem_map.1 hresolution
      refine ⟨(⟨owner, field⟩, _), ?_, hmodel, himport⟩
      exact List.mem_flatMap.2 ⟨_, hfields, List.mem_map.2 ⟨_, hfield, rfl⟩⟩
    · contradiction
  · intro h
    obtain ⟨entry, hentry, hmodel, himport⟩ := h
    obtain ⟨⟨owner, fields⟩, hfields, hmem⟩ := List.mem_flatMap.1 hentry
    obtain ⟨⟨field, resolution⟩, hfield, rfl⟩ := List.mem_map.1 hmem
    refine ⟨(owner, fields), hfields, ?_⟩
    rw [if_pos hmodel]
    exact List.mem_filterMap.2 ⟨resolution, List.mem_map.2 ⟨_, hfield, rfl⟩, himport⟩

namespace ResolvedRow

variable {name : FieldName} {row : Row} {resolution : FieldResolution}

/-- A row is reported exactly for a type that the registry does not know. -/
theorem unknown?_eq (resolved : ResolvedRow registry name row resolution) :
    (resolution.unknown?.map fun declared => (⟨name, declared⟩ : Diagnostic)) =
      finding? registry name row := by
  unfold finding?
  cases resolved with
  | relationship dotted => rw [if_pos dotted]; rfl
  | undeclared undotted undeclared => rw [if_neg undotted, undeclared]; rfl
  | unknown undotted declares unknown =>
    rw [if_neg undotted, declares]
    simp [Option.filter, unknown]
  | typed undotted declares =>
    obtain ⟨declared, hdeclared, hknown⟩ := declares
    rw [if_neg undotted, hdeclared]
    simp [Option.filter, hknown]

/-- A field that is no relationship has no type if it declares none, or if there is a finding. -/
theorem type_eq_none_iff (resolved : ResolvedRow registry name row resolution)
    (undotted : '.' ∉ name.field.toList) :
    resolution.spec.type = none ↔ declared? row = none ∨ (finding? registry name row).isSome := by
  have hfinding := resolved.unknown?_eq
  rw [← hfinding]
  cases resolved with
  | relationship dotted => exact absurd dotted undotted
  | undeclared _ undeclared => exact iff_of_true rfl (Or.inl undeclared)
  | unknown => exact iff_of_true rfl (Or.inr rfl)
  | typed _ declares =>
    obtain ⟨declared, hdeclared, -⟩ := declares
    simp [withType, hdeclared]

/-- A resolution needs an import if the declared type does and the name has no dot. -/
theorem importPath_eq_some_iff (resolved : ResolvedRow registry name row resolution)
    {path : String} :
    resolution.importPath = some path ↔
      '.' ∉ name.field.toList ∧
        ∃ domain, Declares registry row domain ∧ domain.importPath? = some path := by
  cases resolved with
  | relationship dotted => simp [dotted]
  | undeclared _ undeclared => simp [Declares, undeclared]
  | unknown _ declares unknown => simp [Declares, declares, unknown]
  | typed undotted declares =>
    constructor
    · intro hpath
      exact ⟨undotted, _, declares, hpath⟩
    · intro h
      obtain ⟨-, domain, hdeclares, hpath⟩ := h
      rw [declares.unique hdeclares]
      exact hpath

end ResolvedRow

namespace ResolvedRows

/-- There is one finding for every row of an unknown type, in order. -/
theorem diagnostics_eq (rows : ResolvedRows registry schema resolutions) :
    resolutions.diagnostics =
      (Packages.fields schema).filterMap fun entry => finding? registry entry.1 entry.2 := by
  symm
  refine filterMap_eq_filterMap_of_forall₂ (rows.imp fun entry entry' h => ?_)
  obtain ⟨hname, hresolved⟩ := h
  show _ = entry'.2.unknown?.map fun declared => (⟨entry'.1, declared⟩ : Diagnostic)
  rw [hname, hresolved.unknown?_eq]

/-- The row of a field is found again in the typed schema. -/
theorem exists_resolution (rows : ResolvedRows registry schema resolutions) {name : FieldName}
    {row : Row} {field : TypedField} (declared : (name, row) ∈ Packages.fields schema)
    (typed : (name, field) ∈ Packages.fields resolutions.schema) :
    ∃ resolution, ResolvedRow registry name row resolution ∧ resolution.spec = field := by
  obtain ⟨⟨other, resolution⟩, hmem, hname, hresolved⟩ := exists_mem_of_forall₂ rows declared
  obtain rfl : name = other := hname.symm
  have hspec : (name, resolution.spec) ∈ Packages.fields resolutions.schema := by
    rw [fields_schema]
    exact List.mem_map.2 ⟨_, hmem, rfl⟩
  exact ⟨resolution, hresolved, Packages.eq_of_mem_fields hspec typed⟩

/-- A field is in a diagnostic exactly if there is something to report of its row. -/
theorem mem_diagnostics_iff (rows : ResolvedRows registry schema resolutions) {name : FieldName}
    {row : Row} (declared : (name, row) ∈ Packages.fields schema) :
    (∃ type, (⟨name, type⟩ : Diagnostic) ∈ resolutions.diagnostics) ↔
      (finding? registry name row).isSome = true := by
  have hname : ∀ other row' diagnostic, finding? registry other row' = some diagnostic →
      diagnostic.field = other := by
    intro other row' diagnostic hfinding
    unfold finding? at hfinding
    split at hfinding
    · contradiction
    · obtain ⟨type, -, rfl⟩ := Option.map_eq_some_iff.1 hfinding
      rfl
  rw [rows.diagnostics_eq, Option.isSome_iff_exists]
  constructor
  · intro h
    obtain ⟨type, hmem⟩ := h
    obtain ⟨⟨other, row'⟩, hrow', hfinding⟩ := List.mem_filterMap.1 hmem
    obtain rfl := hname _ _ _ hfinding
    rw [Packages.eq_of_mem_fields declared hrow']
    exact ⟨_, hfinding⟩
  · intro h
    obtain ⟨diagnostic, hfinding⟩ := h
    refine ⟨diagnostic.declared, List.mem_filterMap.2 ⟨(name, row), declared, ?_⟩⟩
    rw [hfinding, ← hname _ _ _ hfinding]

/-- A model imports what the types of its rows need. -/
theorem mem_pathsOf_iff (rows : ResolvedRows registry schema resolutions) {model path : String} :
    path ∈ resolutions.imports.pathsOf model ↔
      ∃ name row domain, (name, row) ∈ Packages.fields schema ∧ name.owner.qualified = model ∧
        '.' ∉ name.field.toList ∧ Declares registry row domain ∧
        domain.importPath? = some path := by
  have hrows := exists_mem_iff_of_forall₂ rows
    (P := fun entry => entry.1.owner.qualified = model ∧ '.' ∉ entry.1.field.toList ∧
      ∃ domain, Declares registry entry.2 domain ∧ domain.importPath? = some path)
    (Q := fun entry => entry.1.owner.qualified = model ∧ entry.2.importPath = some path)
    fun entry entry' h => by rw [h.1, h.2.importPath_eq_some_iff]
  rw [mem_pathsOf_imports_iff, ← hrows]
  simp only [Prod.exists]
  constructor
  · intro h
    obtain ⟨name, row, hmem, hmodel, hplain, domain, hdeclares, hpath⟩ := h
    exact ⟨name, row, domain, hmem, hmodel, hplain, hdeclares, hpath⟩
  · intro h
    obtain ⟨name, row, domain, hmem, hmodel, hplain, hdeclares, hpath⟩ := h
    exact ⟨name, row, hmem, hmodel, hplain, domain, hdeclares, hpath⟩

end ResolvedRows

/-! ## Errors -/

/-- Some column of a field that is no relationship cannot be read. -/
def Faulty (registry : Registry) (name : FieldName) (row : Row) : Prop :=
  '.' ∉ name.field.toList ∧ ∃ column text, Unreadable registry row column text

/-- The first column that cannot be read, in the first field with such a column. -/
def FirstFault (registry : Registry) (rows : List (FieldName × Row)) (error : Error) : Prop :=
  ∃ before name row after column text, rows = before ++ (name, row) :: after ∧
    (∀ entry ∈ before, ¬ Faulty registry entry.1 entry.2) ∧ '.' ∉ name.field.toList ∧
    FirstUnreadable registry row column text ∧ error = .invalidBound name column text

/-- A field is resolved unless one of its columns cannot be read. -/
theorem exists_resolveField_iff {name : FieldName} {row : Row} :
    (∃ resolution, resolveField registry name.owner name.field row = .ok resolution) ↔
      ¬ Faulty registry name row := by
  rw [(resolveField_failsExactly registry name.owner name.field row).exists_ok_iff]
  constructor
  · intro hsound hfaulty
    obtain ⟨hplain, column, text, hunreadable⟩ := hfaulty
    exact hsound _ (.unread hplain hunreadable)
  · intro hfine error hfault
    cases hfault with
    | unread undotted unreadable => exact hfine ⟨undotted, _, _, unreadable⟩

/-- Resolving fails exactly for the first fault among all rows. -/
theorem resolve_eq_error_iff {error : Error} :
    resolve registry schema = .error error ↔
      FirstFault registry (Packages.fields schema) error := by
  have hfields : resolve registry schema = schema.traverseFields fun name row =>
      resolveField registry name.owner name.field row := rfl
  rw [hfields, Packages.traverseFields_eq_error_iff]
  simp only [exists_resolveField_iff, resolveField_eq_error_iff]
  constructor
  · intro h
    obtain ⟨before, name, row, after, hsplit, hbefore, hplain, column, text, hfirst, herror⟩ := h
    exact ⟨before, name, row, after, column, text, hsplit, hbefore, hplain, hfirst, herror⟩
  · intro h
    obtain ⟨before, name, row, after, column, text, hsplit, hbefore, hplain, hfirst, herror⟩ := h
    exact ⟨before, name, row, after, hsplit, hbefore, hplain, column, text, hfirst, herror⟩

theorem exists_resolve_eq_error_iff :
    (∃ error, resolve registry schema = .error error) ↔
      ∃ name row, (name, row) ∈ Packages.fields schema ∧ Faulty registry name row := by
  constructor
  · intro h
    obtain ⟨error, hfailed⟩ := h
    obtain ⟨before, name, row, after, column, text, hsplit, -, hplain, hfirst, -⟩ :=
      resolve_eq_error_iff.1 hfailed
    refine ⟨name, row, ?_, hplain, column, text, hfirst.unreadable⟩
    rw [hsplit]
    simp
  · intro h
    obtain ⟨name, row, hmem, hfaulty⟩ := h
    cases hresult : resolve registry schema with
    | error error => exact ⟨error, rfl⟩
    | ok resolutions =>
      -- every field of a resolved schema is resolved
      have hfields : schema.traverseFields (fun name row =>
          resolveField registry name.owner name.field row) = .ok resolutions := hresult
      obtain ⟨⟨_, resolution⟩, -, -, hdone⟩ :=
        exists_mem_of_forall₂ (Packages.forall₂_of_traverseFields hfields) hmem
      exact absurd hfaulty (exists_resolveField_iff.1 ⟨resolution, hdone⟩)

/-! ## Schemas -/

/-- What comes of a schema. -/
structure Resolves (registry : Registry) (schema : RawSchema) (resolutions : Resolutions) :
    Prop where
  rows : ResolvedRows registry schema resolutions
  typed : Packages.fields resolutions.schema =
    resolutions.fields.map fun entry => (entry.1, entry.2.spec)
  /-- Findings stand in the order of their rows. -/
  diagnostics : resolutions.diagnostics =
    (Packages.fields schema).filterMap fun entry => finding? registry entry.1 entry.2
  untyped : ∀ name row field, (name, row) ∈ Packages.fields schema →
    (name, field) ∈ Packages.fields resolutions.schema → '.' ∉ name.field.toList →
      (field.type = none ↔
        declared? row = none ∨ ∃ type, (⟨name, type⟩ : Diagnostic) ∈ resolutions.diagnostics)
  relationships : ∀ name row field, (name, row) ∈ Packages.fields schema →
    (name, field) ∈ Packages.fields resolutions.schema → '.' ∈ name.field.toList →
      field.type = none ∧ field.length = none ∧ field.autoCreateTime = false ∧
        ∀ type, (⟨name, type⟩ : Diagnostic) ∉ resolutions.diagnostics
  /-- Only a field that is no relationship, and whose type is registered, brings an import. -/
  imports : ∀ model path, path ∈ resolutions.imports.pathsOf model ↔
    ∃ name row domain, (name, row) ∈ Packages.fields schema ∧ name.owner.qualified = model ∧
      '.' ∉ name.field.toList ∧ Declares registry row domain ∧ domain.importPath? = some path

/-- What holds of every resolved row makes up all that is said of the schema. -/
theorem ResolvedRows.resolves (rows : ResolvedRows registry schema resolutions) :
    Resolves registry schema resolutions where
  rows := rows
  typed := fields_schema resolutions
  diagnostics := rows.diagnostics_eq
  untyped name row field hrow hfield hplain := by
    obtain ⟨resolution, hresolved, rfl⟩ := rows.exists_resolution hrow hfield
    rw [rows.mem_diagnostics_iff hrow]
    exact hresolved.type_eq_none_iff hplain
  relationships name row field hrow hfield hdotted := by
    obtain ⟨resolution, hresolved, rfl⟩ := rows.exists_resolution hrow hfield
    have hnone : ¬ ∃ type, (⟨name, type⟩ : Diagnostic) ∈ resolutions.diagnostics := by
      rw [rows.mem_diagnostics_iff hrow, finding?, if_pos hdotted]
      simp
    have hspec : resolution.spec = Typing.untyped row := by
      cases hresolved with
      | relationship => rfl
      | undeclared undotted => exact absurd hdotted undotted
      | unknown undotted => exact absurd hdotted undotted
      | typed undotted => exact absurd hdotted undotted
    rw [hspec]
    exact ⟨rfl, rfl, rfl, fun type hmem => hnone ⟨type, hmem⟩⟩
  imports model path := rows.mem_pathsOf_iff

/-- A schema that can be resolved is resolved row by row. It cannot be resolved exactly if some
field of a registered type has a column that cannot be read, and then the first one is reported. -/
theorem resolves_row_by_row (registry : Registry) (schema : RawSchema) :
    (∀ resolutions, resolve registry schema = .ok resolutions →
        Resolves registry schema resolutions) ∧
      ((∃ error, resolve registry schema = .error error) ↔
        ∃ name row, (name, row) ∈ Packages.fields schema ∧ Faulty registry name row) ∧
      ∀ error, resolve registry schema = .error error ↔
        FirstFault registry (Packages.fields schema) error := by
  refine ⟨?_, exists_resolve_eq_error_iff, fun error => resolve_eq_error_iff⟩
  intro resolutions hdone
  exact (resolvedRows_of_resolve hdone).resolves

end SheetSchema.Typing

/-! ## A garden

Its fields are known, unknown and missing, and the bounds of a relationship are not read.
-/

namespace SheetSchema.Garden

open Typing

/-- Rows of a plant. -/
def plant : RawModel := .ofList [
  ("id", .ofList [("Type", .text " UUID ")]),
  ("size", .ofList [("Type", .text "enormous")]),
  ("note", .ofList [("Label", .text "Remark")]),
  ("sites.Site", .ofList [("Type", .text "int"), ("length", .text "long")]),
  ("count", .ofList [("Type", .text "int"), ("Minimum", .text "0"), ("Maximum", .text "200")]),
  ("plantedAt", .ofList [("Type", .text "date"), ("AutoCreate", .bool true)])]

/-- The schema. -/
def schema : RawSchema := .ofList [("garden", .ofList [("Plant", plant)])]

theorem resolves_plants :
    ∃ resolutions, resolve .standard schema = .ok resolutions ∧
      resolutions.diagnostics = [⟨⟨⟨"garden", "Plant"⟩, "size"⟩, "enormous"⟩] ∧
      (Packages.fields resolutions.schema).map (fun entry => entry.2.type) =
        [some "uuid.UUID", none, none, none, some "uint32", some "*time.Time"] ∧
      Resolves .standard schema resolutions := by
  have hresult : (resolve .standard schema).toOption.map (fun resolutions =>
      (resolutions.diagnostics,
        (Packages.fields resolutions.schema).map fun entry => entry.2.type)) =
      some ([⟨⟨⟨"garden", "Plant"⟩, "size"⟩, "enormous"⟩],
        [some "uuid.UUID", none, none, none, some "uint32", some "*time.Time"]) := by
    decide +kernel
  cases hdone : resolve .standard schema with
  | error error =>
    rw [hdone] at hresult
    contradiction
  | ok resolutions =>
    rw [hdone] at hresult
    obtain ⟨hdiagnostics, htypes⟩ := Prod.mk.inj (Option.some.inj hresult)
    exact ⟨resolutions, rfl, hdiagnostics, htypes,
      (resolves_row_by_row .standard schema).1 resolutions hdone⟩

end SheetSchema.Garden
