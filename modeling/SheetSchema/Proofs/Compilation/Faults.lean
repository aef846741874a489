import SheetSchema.Proofs.Compilation.Steps
import SheetSchema.Proofs.Partials.Reach
import SheetSchema.Proofs.Relations.Faults
import SheetSchema.Proofs.Typing.Faults

/-!
# When an extraction does not compile

Three steps of a compilation can fail, each for its own kind of fault. A step is only reached when
no model had a fault in the steps before it, so a fault of an early step in the last model hides the
faults of later steps in the first one. Nothing else makes a compilation fail.
-/

namespace SheetSchema.Compilation

/-! ## Faults of a step -/

/-- A model reaches a partial that does not exist or that includes itself. -/
def PartialFault (extraction : Extraction) (error : Error) : Prop :=
  ∃ owner rows, extraction.schema.model? owner = some rows ∧
    extraction.partials.Fault owner rows.entries error

/-- A field of a registered type has a bound that cannot be read. -/
def BoundFault (raw : RawSchema) (error : Error) : Prop :=
  ∃ owner rows field row, raw.model? owner = some rows ∧ rows.get? field = some row ∧
    Typing.BoundFault .standard owner field row error

/-- A dotted name of a model points at no model, or two names produce the same field. -/
def NameFault (raw : RawSchema) (error : Error) : Prop :=
  ∃ owner rows, raw.model? owner = some rows ∧ Relations.NameFault owner rows.keys error

theorem inlineSchema_failsExactly (extraction : Extraction) :
    FailsExactly (extraction.partials.inlineSchema extraction.schema) (PartialFault extraction) :=
  Packages.traverseModels_failsExactly extraction.schema fun owner rows =>
    Partials.inlineModel_failsExactly extraction.partials owner rows

theorem resolve_failsExactly (raw : RawSchema) :
    FailsExactly (Typing.resolve .standard raw) (BoundFault raw) := by
  have hmodels := Packages.traverseModels_failsExactly raw fun owner rows =>
    OrderedMap.traverse_failsExactly rows fun field row =>
      Typing.resolveField_failsExactly .standard owner field row
  refine hmodels.congr fun error => ?_
  constructor
  · intro h
    obtain ⟨owner, rows, hrows, field, row, hrow, hfault⟩ := h
    exact ⟨owner, rows, field, row, hrows, hrow, hfault⟩
  · intro h
    obtain ⟨owner, rows, field, row, hrows, hrow, hfault⟩ := h
    exact ⟨owner, rows, hrows, field, row, hrow, hfault⟩

/-- Resolution keeps the names of fields, so expansion fails for those of the rows. -/
theorem expandSchema_failsExactly {raw : RawSchema} {resolutions : Typing.Resolutions}
    (resolved : Typing.resolve .standard raw = .ok resolutions) :
    FailsExactly (Relations.expandSchema resolutions.schema) (NameFault raw) := by
  have hmodels := Packages.traverseModels_failsExactly resolutions.schema
    fun owner fields => Relations.expandModel_failsExactly owner fields
  refine hmodels.congr fun error => ?_
  have hkeys : ∀ owner, (resolutions.schema.model? owner).map OrderedMap.keys =
      (raw.model? owner).map OrderedMap.keys := by
    intro owner
    have hrel := Packages.model?_traverseModels resolved owner
    rw [Typing.Resolutions.schema, Packages.model?_mapModels]
    generalize raw.model? owner = rows at hrel ⊢
    generalize resolutions.model? owner = fields at hrel ⊢
    cases hrel with
    | none => rfl
    | some hfields =>
      rw [Option.map_some, Option.map_some, Option.map_some, OrderedMap.keys_map,
        OrderedMap.keys_of_traverse hfields]
  constructor
  · intro h
    obtain ⟨owner, fields, hfields, hfault⟩ := h
    have hrows := hkeys owner
    rw [hfields, Option.map_some, eq_comm, Option.map_eq_some_iff] at hrows
    obtain ⟨rows, hrows, hsame⟩ := hrows
    exact ⟨owner, rows, hrows, hsame ▸ hfault⟩
  · intro h
    obtain ⟨owner, rows, hrows, hfault⟩ := h
    have hfields := hkeys owner
    rw [hrows, Option.map_some, Option.map_eq_some_iff] at hfields
    obtain ⟨fields, hfields, hsame⟩ := hfields
    exact ⟨owner, fields, hfields, hsame ▸ hfault⟩

/-! ## Faults of a compilation -/

/-- Why an extraction does not compile: a fault of the earliest step that has one. -/
inductive Fault (extraction : Extraction) : Error → Prop
  | partials {error : Error} (fault : PartialFault extraction error) : Fault extraction error
  /-- Bounds are read once all partials are inlined. -/
  | bounds {raw : RawSchema} {error : Error}
      (reachable : ∀ earlier, ¬ PartialFault extraction earlier)
      (inlined : extraction.partials.inlineSchema extraction.schema = .ok raw)
      (fault : BoundFault raw error) : Fault extraction error
  /-- Names are expanded once all bounds are read. -/
  | names {raw : RawSchema} {error : Error}
      (reachable : ∀ earlier, ¬ PartialFault extraction earlier)
      (inlined : extraction.partials.inlineSchema extraction.schema = .ok raw)
      (readable : ∀ earlier, ¬ BoundFault raw earlier) (fault : NameFault raw error) :
      Fault extraction error

/-- A compilation fails with a fault of the earliest step that has one, and it succeeds if there is
no fault. -/
theorem fails_exactly_with_faults (config : CompilerSettings) (extraction : Extraction) :
    (∀ error, ofExtraction config extraction = .error error → Fault extraction error) ∧
      ((∃ compilation, ofExtraction config extraction = .ok compilation) ↔
        ∀ error, ¬ Fault extraction error) := by
  have hinline := inlineSchema_failsExactly extraction
  have hexactly : FailsExactly (ofExtraction config extraction) (Fault extraction) := by
    unfold ofExtraction
    cases hinlined : extraction.partials.inlineSchema extraction.schema with
    | error error => exact .of_error (.partials (hinline.fault error hinlined))
    | ok raw =>
      have hreachable := hinline.sound raw hinlined
      have hresolve := resolve_failsExactly raw
      show FailsExactly (Typing.resolve .standard raw >>= _) _
      cases hresolved : Typing.resolve .standard raw with
      | error error =>
        exact .of_error (.bounds hreachable hinlined (hresolve.fault error hresolved))
      | ok resolutions =>
        -- a step that is over has left no fault of its own
        have hreadable := hresolve.sound resolutions hresolved
        have hexpand := expandSchema_failsExactly hresolved
        show FailsExactly (Relations.expandSchema resolutions.schema >>= _) _
        cases hexpanded : Relations.expandSchema resolutions.schema with
        | error error =>
          exact .of_error
            (.names hreachable hinlined hreadable (hexpand.fault error hexpanded))
        | ok expanded =>
          refine .of_ok fun error hfault => ?_
          cases hfault with
          | partials fault => exact hreachable error fault
          | bounds _ inlined fault =>
            rw [hinlined, Except.ok.injEq] at inlined
            exact hreadable error (inlined ▸ fault)
          | names _ inlined _ fault =>
            rw [hinlined, Except.ok.injEq] at inlined
            exact hexpand.sound expanded hexpanded error (inlined ▸ fault)
  exact ⟨hexactly.fault, hexactly.exists_ok_iff⟩

end SheetSchema.Compilation
