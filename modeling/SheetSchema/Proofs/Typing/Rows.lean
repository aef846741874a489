import SheetSchema.Proofs.Typing.Faults

/-!
# Rows of resolved fields

What becomes of a field is told by its row alone. Its type takes the bounds and marks of the row
into account, and the length that the row gives goes before the one that comes with the type.
-/

namespace SheetSchema.Typing

/-! ## What a row says about its type -/

/-- The length that a row gives. -/
def givenLength (row : Row) : Option Nat :=
  (lengthColumns.findSome? (filled? row)).bind length?

/-- A bound that a row gives. -/
def givenBound {α : Type} (read : Cell → Except String α) (row : Row) (column : String) :
    Option α :=
  (filled? row column).bind fun cell => (read cell).toOption

/-- The target type of a domain type on a row. -/
def targetOf (domain : SheetType) (row : Row) : String :=
  match domain.refinement with
  | .none => domain.base
  | .temporal => if isSet row "NotNull" then "time.Time" else "*time.Time"
  | .integer =>
    narrowestInteger (givenBound Cell.integer row "Minimum") (givenBound Cell.integer row "Maximum")
  | .float =>
    narrowestFloat (givenBound Cell.real row "Minimum") (givenBound Cell.real row "Maximum")

/-- A field as its row declares it, with a type. -/
def withType (domain : SheetType) (row : Row) : TypedField :=
  { untyped row with
    type := some (targetOf domain row)
    length := (givenLength row).or domain.length?
    autoCreateTime := domain.refinement = .temporal && isSet row "AutoCreate" }

/-- What becomes of a field. -/
inductive ResolvedRow (registry : Registry) (name : FieldName) (row : Row) : FieldResolution → Prop
  | relationship (dotted : '.' ∈ name.field.toList) :
      ResolvedRow registry name row
        { spec := untyped row, dropped := TypedField.droppedColumns row }
  | undeclared (undotted : '.' ∉ name.field.toList) (undeclared : declared? row = none) :
      ResolvedRow registry name row
        { spec := untyped row, dropped := TypedField.droppedColumns row }
  | unknown {declared : String} (undotted : '.' ∉ name.field.toList)
      (declares : declared? row = some declared) (unknown : registry.lookup? declared = none) :
      ResolvedRow registry name row
        { spec := untyped row, unknown? := some declared, dropped := TypedField.droppedColumns row }
  | typed {domain : SheetType} (undotted : '.' ∉ name.field.toList)
      (declares : Declares registry row domain) :
      ResolvedRow registry name row
        { spec := withType domain row
          importPath := domain.importPath?
          dropped := TypedField.droppedColumns row }

section

variable {registry : Registry} {owner : ModelName} {field : String} {row : Row} {column : String}

theorem lengthLimit_eq_ok {name : FieldName} {length : Option Nat}
    (done : lengthLimit name row = .ok length) : length = givenLength row := by
  have hcell : lengthColumns.findSome? (filled? row) =
      (lengthColumns.findSome? fun column =>
        (filled? row column).map fun cell => (column, cell)).map Prod.snd := by
    rw [List.map_findSome?]
    refine congrArg (List.findSome? · lengthColumns) (funext fun column => ?_)
    cases hfilled : filled? row column with
    | none => simp [hfilled]
    | some cell => simp [hfilled]
  unfold lengthLimit at done
  unfold givenLength
  rw [hcell]
  simp only at done
  split at done
  · next hnone =>
    rw [hnone]
    exact (Except.ok.inj done).symm
  · next column cell hgiven =>
    rw [hgiven]
    split at done
    · next length' hlength =>
      rw [Option.map_some, Option.bind_some, hlength]
      exact (Except.ok.inj done).symm
    · contradiction

theorem bound_eq_ok {α : Type} {read : Cell → Except String α} {name : FieldName}
    {value : Option α} (done : bound read name row column = .ok value) :
    value = givenBound read row column := by
  unfold bound at done
  unfold givenBound
  split at done
  · next hblank =>
    rw [hblank]
    exact (Except.ok.inj done).symm
  · next cell hfilled =>
    rw [hfilled, Option.bind_some]
    split at done
    · next value' hread =>
      rw [hread]
      exact (Except.ok.inj done).symm
    · contradiction

theorem bounds_eq_ok {α β : Type} {read : Cell → Except String α} {name : FieldName}
    {choose : Option α → Option α → β} {value : β}
    (done : (do
        let minimum ← bound read name row minimumColumn
        let maximum ← bound read name row maximumColumn
        .ok (choose minimum maximum)) = .ok value) :
    value = choose (givenBound read row minimumColumn) (givenBound read row maximumColumn) := by
  obtain ⟨minimum, hminimum, hrest⟩ := bind_eq_ok_iff.1 done
  obtain ⟨maximum, hmaximum, hvalue⟩ := bind_eq_ok_iff.1 hrest
  rw [bound_eq_ok hminimum, bound_eq_ok hmaximum] at hvalue
  exact (Except.ok.inj hvalue).symm

/-- A refined type is the one that the bounds of the row ask for. -/
theorem refine_eq_ok {domain : SheetType} {name : FieldName} {type : String}
    (done : refine domain name row = .ok type) : type = targetOf domain row := by
  unfold refine at done
  unfold targetOf
  cases hrefinement : domain.refinement with
  | none =>
    rw [hrefinement] at done
    exact (Except.ok.inj done).symm
  | temporal =>
    rw [hrefinement] at done
    exact (Except.ok.inj done).symm
  | integer =>
    rw [hrefinement] at done
    exact bounds_eq_ok done
  | float =>
    rw [hrefinement] at done
    exact bounds_eq_ok done

/-- A row has no resolved type only if it declares none. -/
theorem resolveType_eq_none {name : FieldName}
    (done : resolveType registry name row = .ok none) : declared? row = none := by
  unfold resolveType at done
  split at done
  · next hnone => exact hnone
  · split at done
    · contradiction
    · obtain ⟨length, -, hrest⟩ := bind_eq_ok_iff.1 done
      obtain ⟨type, -, htarget⟩ := bind_eq_ok_iff.1 hrest
      simp at htarget

theorem resolveType_eq_some {name : FieldName} {target : TargetType}
    (done : resolveType registry name row = .ok (some target)) :
    ∃ domain, Declares registry row domain ∧
      target = {
        type := targetOf domain row
        length := (givenLength row).or domain.length?
        autoCreateTime := domain.refinement = .temporal && isSet row "AutoCreate"
        importPath := domain.importPath? } := by
  unfold resolveType at done
  split at done
  · simp at done
  · next declared hdeclared =>
    split at done
    · contradiction
    · next domain hknown =>
      obtain ⟨length, hlength, hrest⟩ := bind_eq_ok_iff.1 done
      obtain ⟨type, htype, htarget⟩ := bind_eq_ok_iff.1 hrest
      rw [lengthLimit_eq_ok hlength, refine_eq_ok htype, Except.ok.injEq, Option.some.injEq]
        at htarget
      exact ⟨domain, ⟨declared, hdeclared, hknown⟩, htarget.symm⟩

/-- What resolving one row gives, said of the row alone. -/
theorem resolvedRow_of_resolveField {resolution : FieldResolution}
    (done : resolveField registry owner field row = .ok resolution) :
    ResolvedRow registry ⟨owner, field⟩ row resolution := by
  unfold resolveField at done
  split at done
  · next hdotted =>
    rw [← Except.ok.inj done]
    exact .relationship (isDotted_iff.1 hdotted)
  · next hundotted =>
    have hplain : '.' ∉ field.toList := fun hdot => hundotted (isDotted_iff.2 hdot)
    split at done
    · next hnone =>
      rw [← Except.ok.inj done]
      exact .undeclared hplain (resolveType_eq_none hnone)
    · next target htarget =>
      obtain ⟨domain, hdeclares, rfl⟩ := resolveType_eq_some htarget
      rw [← Except.ok.inj done]
      exact .typed hplain hdeclares
    · next declared hunknown =>
      rcases (resolveType_failsExactly registry ⟨owner, field⟩ row).fault _ hunknown with
        ⟨other, hdeclared, hnone, herror⟩ | ⟨_, _, -, herror⟩
      · obtain ⟨-, rfl⟩ := Error.unknownType.inj herror
        rw [← Except.ok.inj done]
        exact .unknown hplain hdeclared hnone
      · contradiction
    · contradiction

end

end SheetSchema.Typing
