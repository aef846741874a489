import SheetSchema.Proofs.Runs
import SheetSchema.Typing.Resolution

/-!
# Resolved fields

Resolution fills in the type of a field and takes everything else from its row. The import that
comes with a type is the one that the target type needs, whatever width it was refined to.
-/

namespace SheetSchema.Typing

/-! ## Imports of target types -/

/-- Whether a target type needs an import. -/
def Needs (type path : String) : Prop :=
  (type = Target.uuid ∧ path = Target.uuidImport) ∨
    ((type = Target.time ∨ type = Target.optionalTime) ∧ path = Target.timeImport)

/-- Target types that need no import. -/
def plainTypes : List String :=
  [Target.string, Target.bool, Target.bytes, Target.int32, Target.int64, Target.uint32,
    Target.uint64, Target.float32, Target.float64]

theorem not_needs_of_mem {type path : String} (plain : type ∈ plainTypes) :
    ¬ Needs type path := by
  intro h
  rcases h with ⟨rfl, -⟩ | ⟨rfl | rfl, -⟩
  · exact absurd plain (by decide)
  · exact absurd plain (by decide)
  · exact absurd plain (by decide)

theorem narrowestInteger_mem (minimum maximum : Option Int) :
    narrowestInteger minimum maximum ∈ plainTypes := by
  unfold narrowestInteger
  split
  · decide
  · split
    · split <;> decide
    · split <;> decide

theorem narrowestFloat_mem (minimum maximum : Option Binary64) :
    narrowestFloat minimum maximum ∈ plainTypes := by
  unfold narrowestFloat
  split
  · decide
  · split <;> decide

/-- The import of a domain type is the one that its refined target type needs. -/
theorem importPath?_eq_some_iff {domain : SheetType} {field : FieldName} {row : Row}
    {type path : String} (refined : refine domain field row = .ok type) :
    domain.importPath? = some path ↔ Needs type path := by
  unfold refine at refined
  cases domain with
  | integer =>
    -- whatever the bounds are, every width is a plain type
    obtain ⟨minimum, -, hrest⟩ := bind_eq_ok_iff.1 refined
    obtain ⟨maximum, -, hdone⟩ := bind_eq_ok_iff.1 hrest
    rw [Except.ok.injEq] at hdone
    have hplain : type ∈ plainTypes := hdone ▸ narrowestInteger_mem minimum maximum
    simp [SheetType.importPath?, not_needs_of_mem hplain]
  | float =>
    obtain ⟨minimum, -, hrest⟩ := bind_eq_ok_iff.1 refined
    obtain ⟨maximum, -, hdone⟩ := bind_eq_ok_iff.1 hrest
    rw [Except.ok.injEq] at hdone
    have hplain : type ∈ plainTypes := hdone ▸ narrowestFloat_mem minimum maximum
    simp [SheetType.importPath?, not_needs_of_mem hplain]
  | time =>
    simp only [SheetType.refinement, Except.ok.injEq] at refined
    subst refined
    have huuid : Target.time ≠ Target.uuid ∧ Target.optionalTime ≠ Target.uuid := by decide
    split <;> simp [SheetType.importPath?, Needs, huuid, eq_comm]
  | uuid =>
    simp only [SheetType.refinement, SheetType.base, Except.ok.injEq] at refined
    subst refined
    have htime : Target.uuid ≠ Target.time ∧ Target.uuid ≠ Target.optionalTime := by decide
    simp [SheetType.importPath?, Needs, htime, eq_comm]
  | string | text | email | url | phone | boolean | bytes =>
    simp only [SheetType.refinement, SheetType.base, Except.ok.injEq] at refined
    have hplain : type ∈ plainTypes := by
      rw [← refined]
      decide
    simp [SheetType.importPath?, not_needs_of_mem hplain]

/-! ## Fields -/

theorem isDotted_iff {field : String} : isDotted field = true ↔ '.' ∈ field.toList := by
  rw [isDotted, List.contains_iff_mem]

/-- A field as its row declares it, without a type. -/
def untyped (row : Row) : TypedField :=
  { TypedField.ofRow row with primaryKey := isSet row primaryColumn }

/-- A relationship gets no type and needs no import of its own. -/
theorem resolveField_dotted {registry : Registry} {owner : ModelName} {field : String} {row : Row}
    {resolution : FieldResolution} (dotted : '.' ∈ field.toList)
    (resolved : resolveField registry owner field row = .ok resolution) :
    resolution.spec = untyped row ∧ resolution.importPath = none := by
  unfold resolveField at resolved
  rw [if_pos (isDotted_iff.2 dotted), Except.ok.injEq] at resolved
  rw [← resolved]
  exact ⟨rfl, rfl⟩

/-- A resolved type comes with a refined target type and its import. -/
theorem resolveType_eq_ok {registry : Registry} {field : FieldName} {row : Row}
    {target : TargetType} (resolved : resolveType registry field row = .ok (some target))
    (path : String) : target.importPath = some path ↔ Needs target.type path := by
  unfold resolveType at resolved
  split at resolved
  · simp at resolved
  · split at resolved
    · contradiction
    · next domain _ =>
      obtain ⟨length, -, hrest⟩ := bind_eq_ok_iff.1 resolved
      obtain ⟨type, hrefined, hdone⟩ := bind_eq_ok_iff.1 hrest
      simp only [Except.ok.injEq, Option.some.injEq] at hdone
      rw [← hdone]
      exact importPath?_eq_some_iff hrefined

/-- What resolution makes of a field: its row with a type, and the import that the type needs. -/
theorem resolveField_eq_ok {registry : Registry} {owner : ModelName} {field : String} {row : Row}
    {resolution : FieldResolution}
    (resolved : resolveField registry owner field row = .ok resolution) :
    ∃ type length autoCreateTime,
      resolution.spec = { untyped row with type, length, autoCreateTime } ∧
        ∀ path, resolution.importPath = some path ↔ ∃ t, type = some t ∧ Needs t path := by
  unfold resolveField at resolved
  split at resolved
  · rw [Except.ok.injEq] at resolved
    exact ⟨none, none, false, by rw [← resolved]; rfl, by simp [← resolved]⟩
  · split at resolved
    · rw [Except.ok.injEq] at resolved
      exact ⟨none, none, false, by rw [← resolved]; rfl, by simp [← resolved]⟩
    · -- only a type that was found brings an import
      next target htarget =>
      rw [Except.ok.injEq] at resolved
      refine ⟨some target.type, target.length, target.autoCreateTime, by rw [← resolved]; rfl, ?_⟩
      intro path
      rw [← resolved]
      simpa using resolveType_eq_ok htarget path
    · rw [Except.ok.injEq] at resolved
      exact ⟨none, none, false, by rw [← resolved]; rfl, by simp [← resolved]⟩
    · contradiction

end SheetSchema.Typing
