import Mathlib.Algebra.Ring.Int.Defs
import SheetSchema.Proofs.Typing.Resolution

/-!
# Bounds that cannot be read

Resolution fails for one kind of fault only: the row of a field with a registered type gives a
length, or a bound that its type is refined by, in a cell that does not read as the number asked
for. Relationships, fields without a type and fields of an unknown type have no such fault.
-/

namespace SheetSchema.Typing

/-! ## Faults of a row -/

/-- A column of a row holds a cell that is not blank. -/
def Fills (row : Row) (column : String) (cell : Cell) : Prop :=
  row.get? column = some cell ∧ cell.isBlank = false

/-- A row declares a registered type. -/
def Declares (registry : Registry) (row : Row) (domain : SheetType) : Prop :=
  ∃ declared, declared? row = some declared ∧ registry.lookup? declared = some domain

/-- The column that gives the length of a field: `length` counts where `MaximumLength` is blank. -/
inductive GivesLength (row : Row) : String → Cell → Prop
  | maximum {cell : Cell} (filled : Fills row "MaximumLength" cell) :
      GivesLength row "MaximumLength" cell
  | length {cell : Cell} (blank : ∀ other, ¬ Fills row "MaximumLength" other)
      (filled : Fills row "length" cell) : GivesLength row "length" cell

/-- A bound by which a type is refined cannot be read. The text is the one that is reported. -/
inductive UnreadBound (domain : SheetType) (row : Row) : String → String → Prop
  /-- A bound of an integer is an integer. -/
  | integer {column text : String} {cell : Cell} (refined : domain.refinement = .integer)
      (bounds : column = minimumColumn ∨ column = maximumColumn) (filled : Fills row column cell)
      (unread : cell.integer = .error text) : UnreadBound domain row column text
  /-- A bound of a float is a number. -/
  | float {column text : String} {cell : Cell} (refined : domain.refinement = .float)
      (bounds : column = minimumColumn ∨ column = maximumColumn) (filled : Fills row column cell)
      (unread : cell.real = .error text) : UnreadBound domain row column text

/-- A column that bounds a field of a registered type cannot be read. -/
inductive Unreadable (registry : Registry) (row : Row) : String → String → Prop
  /-- A length is a natural number of 64 bits. -/
  | length {domain : SheetType} {column : String} {cell : Cell}
      (declares : Declares registry row domain) (gives : GivesLength row column cell)
      (unread : ∀ n : Int, cell.integer = .ok n → ¬ (0 ≤ n ∧ n < 2 ^ 64)) :
      Unreadable registry row column cell.toText
  | bound {domain : SheetType} {column text : String} (declares : Declares registry row domain)
      (unread : UnreadBound domain row column text) : Unreadable registry row column text

/-- A row declares at most one registered type. -/
theorem Declares.unique {registry : Registry} {row : Row} {first second : SheetType}
    (one : Declares registry row first) (other : Declares registry row second) :
    first = second := by
  obtain ⟨declared, hdeclared, hknown⟩ := one
  obtain ⟨declared', hdeclared', hknown'⟩ := other
  rw [hdeclared, Option.some.injEq] at hdeclared'
  subst hdeclared'
  exact Option.some.inj (hknown.symm.trans hknown')

theorem Unreadable.exists_declares {registry : Registry} {row : Row} {column text : String}
    (unreadable : Unreadable registry row column text) :
    ∃ domain, Declares registry row domain := by
  cases unreadable with
  | length declares => exact ⟨_, declares⟩
  | bound declares => exact ⟨_, declares⟩

/-- A field that is no relationship has a bound that cannot be read. -/
inductive BoundFault (registry : Registry) (owner : ModelName) (field : String) (row : Row) :
    Error → Prop
  | unread {column text : String} (undotted : '.' ∉ field.toList)
      (unreadable : Unreadable registry row column text) :
      BoundFault registry owner field row (.invalidBound ⟨owner, field⟩ column text)

/-! ## Single columns -/

variable {row : Row} {field : FieldName} {column : String}

theorem filled?_eq_some_iff {cell : Cell} :
    filled? row column = some cell ↔ Fills row column cell := by
  unfold filled? Fills
  rw [Option.filter_eq_some_iff, Bool.not_eq_true']

theorem filled?_eq_none_iff : filled? row column = none ↔ ∀ cell, ¬ Fills row column cell := by
  rw [Option.eq_none_iff_forall_ne_some]
  exact forall_congr' fun cell => not_congr filled?_eq_some_iff

/-- A bound is refused if its cell is filled and cannot be read. -/
theorem bound_failsExactly {α : Type} (read : Cell → Except String α) (field : FieldName)
    (row : Row) (column : String) :
    FailsExactly (bound read field row column) fun error =>
      ∃ cell text, Fills row column cell ∧ read cell = .error text ∧
        error = .invalidBound field column text := by
  unfold bound
  split
  · next hblank =>
    refine .of_ok fun error h => ?_
    obtain ⟨cell, _, hfills, -⟩ := h
    exact filled?_eq_none_iff.1 hblank cell hfills
  · next cell hfilled =>
    have hfills := filled?_eq_some_iff.1 hfilled
    split
    · next value hread =>
      refine .of_ok fun error h => ?_
      obtain ⟨other, text, hother, herror, -⟩ := h
      have hsame : other = cell := Option.some.inj (hother.1.symm.trans hfills.1)
      rw [hsame, hread] at herror
      contradiction
    · next text hread => exact .of_error ⟨cell, text, hfills, hread, rfl⟩

/-- A length is read from a cell that holds a natural number of 64 bits. -/
theorem length?_eq_none_iff {cell : Cell} :
    length? cell = none ↔ ∀ n : Int, cell.integer = .ok n → ¬ (0 ≤ n ∧ n < 2 ^ 64) := by
  unfold length? unsignedSpan
  cases cell.integer with
  | error text => simp
  | ok n =>
    simp only [Except.ok.injEq, forall_eq', ite_eq_right_iff, reduceCtorEq, imp_false]
    omega

/-- The first column with a length that is not blank counts. -/
theorem givesLength_iff {cell : Cell} :
    GivesLength row column cell ↔
      (lengthColumns.findSome? fun column => (filled? row column).map fun cell => (column, cell)) =
        some (column, cell) := by
  unfold lengthColumns
  simp only [List.findSome?_cons, List.findSome?_nil]
  -- a blank maximum counts as none
  cases hmaximum : filled? row "MaximumLength" with
  | some other =>
    have hfills := filled?_eq_some_iff.1 hmaximum
    simp only [Option.map_some, Option.some.injEq, Prod.mk.injEq]
    constructor
    · intro h
      cases h with
      | maximum filled => exact ⟨rfl, by simpa using hfills.1.symm.trans filled.1⟩
      | length blank _ => exact absurd hfills (blank other)
    · intro h
      obtain ⟨rfl, rfl⟩ := h
      exact .maximum hfills
  | none =>
    have hblank := filled?_eq_none_iff.1 hmaximum
    simp only [Option.map_none]
    constructor
    · intro h
      cases h with
      | maximum filled => exact absurd filled (hblank cell)
      | length _ filled => rw [filled?_eq_some_iff.2 filled, Option.map_some]
    · intro h
      cases hlength : filled? row "length" with
      | none => simp [hlength] at h
      | some other =>
        simp only [hlength, Option.map_some, Option.some.injEq, Prod.mk.injEq] at h
        obtain ⟨rfl, rfl⟩ := h
        exact .length hblank (filled?_eq_some_iff.1 hlength)

/-- A length is refused unless it is a whole number that fits into a machine word. -/
theorem lengthLimit_failsExactly (field : FieldName) (row : Row) :
    FailsExactly (lengthLimit field row) fun error =>
      ∃ column cell, GivesLength row column cell ∧
        (∀ n : Int, cell.integer = .ok n → ¬ (0 ≤ n ∧ n < 2 ^ 64)) ∧
        error = .invalidBound field column cell.toText := by
  unfold lengthLimit
  simp only [givesLength_iff, ← length?_eq_none_iff]
  split
  · next hnone =>
    refine .of_ok fun error h => ?_
    obtain ⟨column, cell, hgives, -⟩ := h
    rw [hnone] at hgives
    contradiction
  · next column cell hgives =>
    split
    · next length hread =>
      refine .of_ok fun error h => ?_
      obtain ⟨other, cell', hgives', hunread, -⟩ := h
      rw [hgives, Option.some.injEq, Prod.mk.injEq] at hgives'
      rw [← hgives'.2, hread] at hunread
      contradiction
    · next hunread => exact .of_error ⟨column, cell, hgives, hunread, rfl⟩

/-! ## Fields -/

/-- Both bounds of a field are read in the same way. -/
theorem bounds_failsExactly {α β : Type} (read : Cell → Except String α) (field : FieldName)
    (row : Row) (choose : Option α → Option α → β) :
    FailsExactly (do
        let minimum ← bound read field row minimumColumn
        let maximum ← bound read field row maximumColumn
        .ok (choose minimum maximum))
      fun error => ∃ column cell text, (column = minimumColumn ∨ column = maximumColumn) ∧
        Fills row column cell ∧ read cell = .error text ∧
        error = .invalidBound field column text := by
  have hboth := (bound_failsExactly read field row minimumColumn).bind fun minimum =>
    (bound_failsExactly read field row maximumColumn).bind fun maximum =>
      FailsExactly.ok (choose minimum maximum)
  refine hboth.congr fun error => ?_
  constructor
  · intro h
    rcases h with ⟨cell, text, hfault⟩ | ⟨cell, text, hfault⟩ | hfalse
    · exact ⟨minimumColumn, cell, text, Or.inl rfl, hfault⟩
    · exact ⟨maximumColumn, cell, text, Or.inr rfl, hfault⟩
    · exact hfalse.elim
  · intro h
    obtain ⟨column, cell, text, rfl | rfl, hfault⟩ := h
    · exact Or.inl ⟨cell, text, hfault⟩
    · exact Or.inr (Or.inl ⟨cell, text, hfault⟩)

/-- A type is refused for a bound that it reads and cannot. -/
theorem refine_failsExactly (domain : SheetType) (field : FieldName) (row : Row) :
    FailsExactly (refine domain field row) fun error =>
      ∃ column text, UnreadBound domain row column text ∧
        error = .invalidBound field column text := by
  unfold refine
  cases hrefinement : domain.refinement with
  | none =>
    refine .of_ok fun error h => ?_
    obtain ⟨_, _, hunread, -⟩ := h
    cases hunread <;> simp_all
  | temporal =>
    refine .of_ok fun error h => ?_
    obtain ⟨_, _, hunread, -⟩ := h
    cases hunread <;> simp_all
  | integer =>
    refine (bounds_failsExactly Cell.integer field row narrowestInteger).congr fun error => ?_
    constructor
    · intro h
      obtain ⟨column, cell, text, hbounds, hfills, hunread, herror⟩ := h
      exact ⟨column, text, .integer hrefinement hbounds hfills hunread, herror⟩
    · intro h
      obtain ⟨column, text, hunread, herror⟩ := h
      cases hunread with
      | integer _ bounds filled unread => exact ⟨column, _, text, bounds, filled, unread, herror⟩
      | float refined => rw [hrefinement] at refined; contradiction
  | float =>
    refine (bounds_failsExactly Cell.real field row narrowestFloat).congr fun error => ?_
    constructor
    · intro h
      obtain ⟨column, cell, text, hbounds, hfills, hunread, herror⟩ := h
      exact ⟨column, text, .float hrefinement hbounds hfills hunread, herror⟩
    · intro h
      obtain ⟨column, text, hunread, herror⟩ := h
      cases hunread with
      | integer refined => rw [hrefinement] at refined; contradiction
      | float _ bounds filled unread => exact ⟨column, _, text, bounds, filled, unread, herror⟩

/-- A declared type is not resolved if it is unknown, or if a bound cannot be read. -/
theorem resolveType_failsExactly (registry : Registry) (field : FieldName) (row : Row) :
    FailsExactly (resolveType registry field row) fun error =>
      (∃ declared, declared? row = some declared ∧ registry.lookup? declared = none ∧
        error = .unknownType field declared) ∨
      ∃ column text, Unreadable registry row column text ∧
        error = .invalidBound field column text := by
  unfold resolveType
  split
  · next hnone =>
    refine .of_ok fun error h => ?_
    rcases h with ⟨declared, hdeclared, -⟩ | ⟨column, text, hunreadable, -⟩
    · rw [hnone] at hdeclared
      contradiction
    · obtain ⟨domain, declared, hdeclared, -⟩ := hunreadable.exists_declares
      rw [hnone] at hdeclared
      contradiction
  · next declared hdeclared =>
    split
    · next hunknown => exact .of_error (Or.inl ⟨declared, hdeclared, hunknown, rfl⟩)
    · next domain hknown =>
      have hdeclares : Declares registry row domain := ⟨declared, hdeclared, hknown⟩
      -- the length comes first, then both bounds
      have hsteps := (lengthLimit_failsExactly field row).bind fun length =>
        (refine_failsExactly domain field row).bind fun type =>
          FailsExactly.ok (some ({
            type
            length := length.or domain.length?
            autoCreateTime := domain.refinement = .temporal && isSet row autoCreateColumn
            importPath := domain.importPath? } : TargetType))
      refine hsteps.congr fun error => ?_
      constructor
      · intro h
        rcases h with ⟨column, cell, hgives, hunread, rfl⟩ | ⟨column, text, hunread, rfl⟩ | hfalse
        · exact Or.inr ⟨column, cell.toText, .length hdeclares hgives hunread, rfl⟩
        · exact Or.inr ⟨column, text, .bound hdeclares hunread, rfl⟩
        · exact hfalse.elim
      · intro h
        rcases h with ⟨other, hother, hunknown, -⟩ | ⟨column, text, hunreadable, rfl⟩
        · rw [hdeclared, Option.some.injEq] at hother
          rw [← hother, hknown] at hunknown
          contradiction
        · cases hunreadable with
          | length _ gives unread => exact Or.inl ⟨column, _, gives, unread, rfl⟩
          | bound declares unread =>
            rw [declares.unique hdeclares] at unread
            exact Or.inr (Or.inl ⟨column, text, unread, rfl⟩)

/-- A field is not resolved if it is no relationship and a bound of it cannot be read. -/
theorem resolveField_failsExactly (registry : Registry) (owner : ModelName) (field : String)
    (row : Row) :
    FailsExactly (resolveField registry owner field row) (BoundFault registry owner field row) := by
  have htype := resolveType_failsExactly registry ⟨owner, field⟩ row
  unfold resolveField
  split
  · next hdotted =>
    refine .of_ok fun error hfault => ?_
    cases hfault with
    | unread undotted _ => exact undotted (isDotted_iff.1 hdotted)
  · next hundotted =>
    have hplain : '.' ∉ field.toList := fun hdot => hundotted (isDotted_iff.2 hdot)
    -- a type that is found, or missing, leaves no fault; an unknown one is passed over
    have hsound : ∀ result, resolveType registry ⟨owner, field⟩ row = .ok result →
        ∀ error, ¬ BoundFault registry owner field row error := by
      intro result hresult error hfault
      cases hfault with
      | @unread column text _ unreadable =>
        exact htype.sound result hresult _ (Or.inr ⟨column, text, unreadable, rfl⟩)
    split
    · next hresult => exact .of_ok (hsound _ hresult)
    · next hresult => exact .of_ok (hsound _ hresult)
    · next declared hunknown =>
      refine .of_ok fun error hfault => ?_
      cases hfault with
      | unread _ unreadable =>
        obtain ⟨domain, other, hother, hknown⟩ := unreadable.exists_declares
        rcases htype.fault _ hunknown with ⟨_, hdeclared, hnone, -⟩ | ⟨_, _, -, herror⟩
        · rw [hdeclared, Option.some.injEq] at hother
          rw [hother, hknown] at hnone
          contradiction
        · contradiction
    · next error hother hfailed =>
      rcases htype.fault error hfailed with ⟨declared, -, -, rfl⟩ | ⟨column, text, hunread, rfl⟩
      · exact absurd rfl (hother _ declared)
      · exact .of_error (.unread hplain hunread)

end SheetSchema.Typing
