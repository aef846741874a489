import SheetSchema.Extraction
import SheetSchema.Proofs.ModelNames
import SheetSchema.Proofs.Packages
import SheetSchema.Proofs.Runs

/-!
# Extracted models are named by identifiers

Sheets may have any name, but a model is only opened under an identifier. So no row, sheet or
workbook brings in a model whose name has a dot, and dotted names tell the models apart.
-/

namespace SheetSchema

/-- All models of a package are named by identifiers. -/
def RawPackage.Identified (models : RawPackage) : Prop :=
  ∀ model ∈ models.keys, Text.isIdentifier model = true

namespace Sheet.Reading

/-- The models read so far, and the open one, are named by identifiers. -/
structure Identified (reading : Reading) : Prop where
  models : RawPackage.Identified reading.models
  current : ∀ model, reading.current = some model → Text.isIdentifier model = true

theorem identified_start : Identified start where
  models := by
    intro model hmem
    simp [start] at hmem
  current := by
    intro model hcurrent
    simp [start] at hcurrent

theorem identified_openModel {sheet : String} {number : Nat} {row : Row}
    {reading next : Reading} (start : reading.Identified)
    (done : reading.openModel sheet number row = .ok next) : next.Identified := by
  unfold openModel at done
  split at done
  · simp only [Except.ok.injEq] at done
    exact done ▸ start
  · next model hmodel =>
    split at done
    · next hidentifier =>
      simp only [Except.ok.injEq] at done
      subst done
      refine ⟨?_, ?_⟩
      · intro other hmem
        rcases OrderedMap.mem_keys_insert.1 hmem with rfl | hold
        · exact hidentifier
        · exact start.models other hold
      · intro other hcurrent
        simp only [Option.some.injEq] at hcurrent
        exact hcurrent ▸ hidentifier
    · contradiction

theorem identified_declareField {sheet : String} {number : Nat} {row : Row}
    {reading next : Reading} (start : reading.Identified)
    (done : reading.declareField sheet number row = .ok next) : next.Identified := by
  unfold declareField at done
  split at done
  · contradiction
  · next model hmodel =>
    split at done
    · simp only [Except.ok.injEq] at done
      subst done
      refine ⟨?_, start.current⟩
      intro other hmem
      -- the field goes to the open model, whose name was checked when it was opened
      rcases OrderedMap.mem_keys_modify.1 hmem with rfl | hold
      · exact start.current other hmodel
      · exact start.models other hold
    · split at done
      · simp only [Except.ok.injEq] at done
        exact done ▸ start
      · contradiction

/-- One row keeps the names of models identifiers. -/
theorem identified_step {sheet : String} {reading : Reading} {numbered : Nat × Row}
    {next : Reading} (start : reading.Identified)
    (done : reading.step sheet numbered = .ok next) : next.Identified := by
  obtain ⟨number, row⟩ := numbered
  simp only [step] at done
  split at done
  · simp only [Except.ok.injEq] at done
    exact done ▸ start
  · obtain ⟨opened, hopen, hdeclare⟩ := bind_eq_ok_iff.1 done
    exact identified_declareField (identified_openModel start hopen) hdeclare

end Sheet.Reading

theorem Sheet.identified_models {sheet : Sheet} {models : RawPackage}
    (done : sheet.models = .ok models) : RawPackage.Identified models := by
  obtain ⟨final, hrun, rfl⟩ := map_eq_ok_iff.1 done
  have hfinal : Reading.Identified final :=
    invariant_of_foldlM Reading.Identified
      (fun _ _ _ _ start hstep => Reading.identified_step start hstep)
      Reading.identified_start hrun
  exact hfinal.models

namespace Extraction

/-- All models of all packages are named by identifiers. -/
def Identified (extraction : Extraction) : Prop :=
  ∀ name ∈ extraction.schema.names, Text.isIdentifier name.model = true

/-- Adding a package of models with identifiers for names. -/
theorem identified_insert {schema : RawSchema} {package : String} {models : RawPackage}
    (start : ∀ name ∈ schema.names, Text.isIdentifier name.model = true)
    (hmodels : RawPackage.Identified models) :
    ∀ name ∈ Packages.names (schema.insert package models),
      Text.isIdentifier name.model = true := by
  intro name hname
  obtain ⟨item, hitem⟩ := Packages.mem_names_iff.1 hname
  unfold Packages.model? at hitem
  rw [OrderedMap.get?_insert] at hitem
  split at hitem
  · exact hmodels name.model (OrderedMap.mem_keys_of_get? hitem)
  · exact start name (Packages.mem_names_iff.2 ⟨item, hitem⟩)

/-- One sheet keeps the names of models identifiers. -/
theorem identified_addSheet {extraction next : Extraction} {sheet : Sheet}
    (start : extraction.Identified) (done : extraction.addSheet sheet = .ok next) :
    next.Identified := by
  unfold addSheet at done
  split at done
  · obtain ⟨models, hmodels, hadded⟩ := bind_eq_ok_iff.1 done
    split at hadded
    · simp only [Except.ok.injEq] at hadded
      subst hadded
      exact start
    · simp only [Except.ok.injEq] at hadded
      subst hadded
      exact identified_insert start (Sheet.identified_models hmodels)
  · simp only [Except.ok.injEq] at done
    exact done ▸ start

/-- Whatever the sheets of a workbook are called, its models are named by identifiers. -/
theorem identified_ofWorkbook {workbook : Workbook} {extraction : Extraction}
    (done : ofWorkbook workbook = .ok extraction) : extraction.Identified := by
  refine invariant_of_foldlM Identified
    (fun _ _ _ _ start hsheet => identified_addSheet start hsheet) ?_ done
  intro name hname
  simp [empty, Packages.names, Packages.models] at hname

/-- Models named by identifiers are told apart, dots in the names of sheets notwithstanding. -/
theorem Identified.toldApart {extraction : Extraction} (identified : extraction.Identified) :
    Packages.ToldApart extraction.schema := by
  intro first hfirst second hsecond same
  exact ModelName.eq_of_qualified_eq (identified first hfirst) (identified second hsecond) same

end Extraction

end SheetSchema
