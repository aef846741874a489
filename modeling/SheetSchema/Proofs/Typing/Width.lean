import SheetSchema.Proofs.Cell.Integer
import SheetSchema.Proofs.Typing.Faults

/-!
# Widths of integers

The type that is chosen for an integer represents the whole range that its bounds stand for if any
integer type does, and no type of fewer bits represents that range. So a range that is enlarged, and
can still be represented, never gets a type of fewer bits.

Bounds that cannot be held in 64 bits may be read as other numbers. No integer type holds them, and
none represents a range that they bound.
-/

namespace SheetSchema.Typing

/-! ## Integer types -/

/-- Integer types of the target language. -/
inductive IntegerType where
  | uint32
  | int32
  | uint64
  | int64

namespace IntegerType

/-- Name in the target language. -/
def name : IntegerType → String
  | uint32 => "uint32"
  | int32 => "int32"
  | uint64 => "uint64"
  | int64 => "int64"

/-- How many bits an integer of the type has. -/
def bits : IntegerType → ℕ
  | uint32 | int32 => 32
  | uint64 | int64 => 64

/-- The least integer of the type. -/
def least : IntegerType → ℤ
  | uint32 | uint64 => 0
  | int32 => -2 ^ 31
  | int64 => -2 ^ 63

/-- The greatest integer of the type. -/
def greatest : IntegerType → ℤ
  | uint32 => 2 ^ 32 - 1
  | int32 => 2 ^ 31 - 1
  | uint64 => 2 ^ 64 - 1
  | int64 => 2 ^ 63 - 1

/-- A type holds an integer. -/
def Holds (type : IntegerType) (n : ℤ) : Prop := type.least ≤ n ∧ n ≤ type.greatest

/-- A type represents every integer of a range. -/
def Represents (type : IntegerType) (low high : ℤ) : Prop :=
  ∀ n, low ≤ n → n ≤ high → type.Holds n

/-- A type represents a range if any type does, and has no more bits than any type that does. -/
def Narrowest (type : IntegerType) (low high : ℤ) : Prop :=
  ∀ other : IntegerType, other.Represents low high →
    type.Represents low high ∧ type.bits ≤ other.bits

variable {type wide other : IntegerType} {low high low' high' n : ℤ}

theorem represents_iff (nonempty : low ≤ high) :
    type.Represents low high ↔ type.least ≤ low ∧ high ≤ type.greatest := by
  constructor
  · intro h
    exact ⟨(h low le_rfl nonempty).1, (h high nonempty le_rfl).2⟩
  · intro h n hlow hhigh
    exact ⟨h.1.trans hlow, hhigh.trans h.2⟩

theorem Represents.mono (represents : type.Represents low' high') (below : low' ≤ low)
    (above : high ≤ high') : type.Represents low high :=
  fun n hlow hhigh => represents n (below.trans hlow) (hhigh.trans above)

/-- Integers that some type holds have 64 bits. -/
theorem Holds.bounds (holds : type.Holds n) : -2 ^ 63 ≤ n ∧ n < 2 ^ 64 := by
  obtain ⟨hleast, hgreatest⟩ := holds
  cases type <;> simp only [least, greatest] at hleast hgreatest <;> omega

/-- An enlarged range that some type represents takes at least as many bits. -/
theorem Narrowest.bits_le (narrow : type.Narrowest low high) (wider : wide.Narrowest low' high')
    (below : low' ≤ low) (above : high ≤ high') (represents : other.Represents low' high') :
    type.bits ≤ wide.bits :=
  (narrow wide ((wider other represents).1.mono below above)).2

end IntegerType

/-! ## Bounds -/

/-- The range that bounds stand for. -/
inductive StandsFor : Option ℤ → Option ℤ → ℤ → ℤ → Prop
  | both (minimum maximum : ℤ) : StandsFor (some minimum) (some maximum) minimum maximum
  | upward (minimum : ℤ) : StandsFor (some minimum) none minimum (2 ^ 64 - 1)
  | fromZero {maximum : ℤ} (natural : 0 ≤ maximum) : StandsFor none (some maximum) 0 maximum
  | downward {maximum : ℤ} (negative : maximum < 0) :
      StandsFor none (some maximum) (-(2 ^ 64 - 1)) maximum

/-- One bound is given and the other one is not. -/
inductive Single : Option ℤ → Option ℤ → ℤ → Prop
  | minimum (n : ℤ) : Single (some n) none n
  | maximum (n : ℤ) : Single none (some n) n

/-- A type is as the bounds of an integer ask for. -/
structure Suits (minimum maximum : Option ℤ) (type : IntegerType) : Prop where
  /-- It is the narrowest type for the range of the bounds. -/
  narrowest : ∀ low high, StandsFor minimum maximum low high → low ≤ high →
    type.Narrowest low high
  /-- It holds a bound that is given alone if any type does. -/
  holds : ∀ n, Single minimum maximum n → ∀ other : IntegerType, other.Holds n → type.Holds n
  /-- Without bounds it is the widest signed type. -/
  unbounded : minimum = none → maximum = none → type = .int64

/-- The type for a range, as the selection goes through its cases. -/
def widthOf (low high : ℤ) : IntegerType :=
  if 0 ≤ low then
    if high < 0x100000000 then .uint32 else .uint64
  else if high < 0x80000000 ∧ -0x80000000 ≤ low then .int32
  else .int64

section

variable {minimum maximum : Option ℤ} {low high n : ℤ}

/-- The width that is chosen is the narrowest for its range. -/
theorem narrowest_widthOf (nonempty : low ≤ high) : (widthOf low high).Narrowest low high := by
  intro other hother
  rw [IntegerType.represents_iff nonempty] at hother ⊢
  unfold widthOf
  -- every case of the selection against the ends of every type that represents the range
  split_ifs <;> cases other <;>
    simp only [IntegerType.least, IntegerType.greatest, IntegerType.bits] at hother ⊢ <;> omega

/-- The missing bound never takes the given one out of the type. -/
theorem holds_widthOf (stands : StandsFor minimum maximum low high)
    (single : Single minimum maximum n) {other : IntegerType} (holds : other.Holds n) :
    (widthOf low high).Holds n := by
  have hbounds := holds.bounds
  unfold IntegerType.Holds widthOf
  cases single with
  | minimum =>
    -- the greatest integer of 64 bits leaves no type of 32 bits
    cases stands with
    | upward => split_ifs <;> simp only [IntegerType.least, IntegerType.greatest] <;> omega
  | maximum =>
    cases stands with
    | fromZero natural =>
      split_ifs <;> simp only [IntegerType.least, IntegerType.greatest] <;> omega
    | downward negative =>
      split_ifs <;> simp only [IntegerType.least, IntegerType.greatest] <;> omega

/-- Bounds stand for the range that is computed from them. -/
theorem standsFor_iff :
    StandsFor minimum maximum low high ↔ integerRange? minimum maximum = some (low, high) := by
  constructor
  · intro h
    cases h with
    | both => rfl
    | upward => rfl
    | fromZero natural => simp [integerRange?, natural]
    | downward negative => simp [integerRange?, unsignedSpan, not_le.2 negative]
  · intro h
    unfold integerRange? at h
    split at h
    · contradiction
    · cases h
      exact .both _ _
    · cases h
      exact .upward _
    · next maximum =>
      split at h
      · next hnatural =>
        cases h
        exact .fromZero hnatural
      · next hnegative =>
        cases h
        exact .downward (not_le.1 hnegative)

/-- Whatever bounds are read, the selected type is as they ask for. -/
theorem exists_suits (minimum maximum : Option ℤ) :
    ∃ type : IntegerType, narrowestInteger minimum maximum = type.name ∧
      Suits minimum maximum type := by
  unfold narrowestInteger
  cases hrange : integerRange? minimum maximum with
  | none =>
    -- only without any bound is there no range
    have hblank : minimum = none ∧ maximum = none := by
      cases minimum <;> cases maximum <;> simp_all [integerRange?]
    obtain ⟨rfl, rfl⟩ := hblank
    refine ⟨.int64, rfl, ?_, ?_, fun _ _ => rfl⟩
    · intro low high stands
      cases stands
    · intro n single
      cases single
  | some range =>
    obtain ⟨low, high⟩ := range
    have hstands := standsFor_iff.2 hrange
    refine ⟨widthOf low high, ?_, ?_, ?_, ?_⟩
    · unfold widthOf
      simp only
      split_ifs <;> rfl
    · intro low' high' hother nonempty
      have hsame : (low, high) = (low', high') :=
        Option.some.inj (hrange.symm.trans (standsFor_iff.1 hother))
      cases hsame
      exact narrowest_widthOf nonempty
    · intro n single other holds
      exact holds_widthOf hstands single holds
    · rintro rfl rfl
      contradiction

end

/-! ## Bounds of a row -/

/-- A column of a row gives an integer of 128 bits, or none: it is absent or blank. -/
inductive GivesBound (row : Row) (column : String) : Option ℤ → Prop
  | nothing (blank : ∀ cell, ¬ Fills row column cell) : GivesBound row column none
  | integer {cell : Cell} {n : ℤ} (found : row.get? column = some cell) (gives : cell.Gives n)
      (fits : -2 ^ 127 ≤ n ∧ n < 2 ^ 127) : GivesBound row column (some n)

/-- A bound that is given has 64 bits. -/
def Bounded (given : Option ℤ) : Prop := ∀ n ∈ given, -2 ^ 63 ≤ n ∧ n < 2 ^ 64

/-- What is read of a bound; it is the same number if that has 64 bits. -/
structure ReadAs (given read : Option ℤ) : Prop where
  given_iff : read = none ↔ given = none
  exact : Bounded given → read = given

section

variable {row : Row} {column : String} {given minimum maximum minimum' maximum' : Option ℤ}
  {low high n : ℤ} {type other : IntegerType}

theorem GivesBound.exists_bound (gives : GivesBound row column given) (field : FieldName) :
    ∃ read, bound Cell.integer field row column = .ok read ∧ ReadAs given read := by
  unfold bound
  cases gives with
  | nothing blank =>
    rw [filled?_eq_none_iff.2 blank]
    exact ⟨none, rfl, Iff.rfl, fun _ => rfl⟩
  | @integer cell n found gives fits =>
    have hfits : Cell.leastInteger ≤ n ∧ n ≤ Cell.greatestInteger := by
      unfold Cell.leastInteger Cell.greatestInteger
      omega
    obtain ⟨m, hread, hexact⟩ := gives.exists_integer hfits
    rw [filled?_eq_some_iff.2 ⟨found, gives.isBlank⟩]
    simp only [hread]
    refine ⟨some m, rfl, by simp, ?_⟩
    intro hbounded
    obtain ⟨hleast, hgreatest⟩ := hbounded n rfl
    rw [hexact hleast hgreatest]

/-- Bounds of a range that some type represents have 64 bits. -/
theorem StandsFor.bounded (stands : StandsFor minimum maximum low high) (nonempty : low ≤ high)
    (represents : other.Represents low high) : Bounded minimum ∧ Bounded maximum := by
  have hlow := (represents low le_rfl nonempty).bounds
  have hhigh := (represents high nonempty le_rfl).bounds
  unfold Bounded
  cases stands <;> simp <;> omega

/-- So does a bound that some type holds, if it is given alone. -/
theorem Single.bounded (single : Single minimum maximum n) (holds : other.Holds n) :
    Bounded minimum ∧ Bounded maximum := by
  have hbounds := holds.bounds
  unfold Bounded
  cases single <;> simpa using hbounds

/-- A type suits the bounds that a row gives if it suits what is read of them: as far as any type
can be asked for, both are the same. -/
theorem Suits.of_readAs (suits : Suits minimum' maximum' type)
    (readMinimum : ReadAs minimum minimum') (readMaximum : ReadAs maximum maximum') :
    Suits minimum maximum type where
  narrowest low high stands nonempty other represents := by
    -- nothing is asked for where no type represents the range
    obtain ⟨hminimum, hmaximum⟩ := stands.bounded nonempty represents
    rw [readMinimum.exact hminimum, readMaximum.exact hmaximum] at suits
    exact suits.narrowest low high stands nonempty other represents
  holds n single other holds := by
    obtain ⟨hminimum, hmaximum⟩ := single.bounded holds
    rw [readMinimum.exact hminimum, readMaximum.exact hmaximum] at suits
    exact suits.holds n single other holds
  unbounded noMinimum noMaximum :=
    suits.unbounded (readMinimum.given_iff.2 noMinimum) (readMaximum.given_iff.2 noMaximum)

end

/-! ## Rows of integer fields -/

/-- The row of a field of an integer type, with the bounds that it gives. -/
structure IntegerRow (registry : Registry) (row : Row) (minimum maximum : Option ℤ) : Prop where
  declares : Declares registry row .integer
  /-- A length that the row gives besides can be read. -/
  length : ∀ column cell, GivesLength row column cell →
    ∃ n : ℤ, cell.integer = .ok n ∧ 0 ≤ n ∧ n < 2 ^ 64
  givesMinimum : GivesBound row "Minimum" minimum
  givesMaximum : GivesBound row "Maximum" maximum

/-- An integer type is chosen for a field. -/
def Chooses (registry : Registry) (field : FieldName) (row : Row) (type : IntegerType) : Prop :=
  ∃ target, resolveType registry field row = .ok (some target) ∧ target.type = type.name

variable {registry : Registry} {row : Row} {minimum maximum : Option ℤ}

/-- The row of an integer field is resolved to a type that suits its bounds. -/
theorem IntegerRow.exists_chooses (given : IntegerRow registry row minimum maximum)
    (field : FieldName) :
    ∃ type, Chooses registry field row type ∧ Suits minimum maximum type := by
  obtain ⟨declared, hdeclared, hknown⟩ := given.declares
  obtain ⟨length, hlength⟩ := (lengthLimit_failsExactly field row).exists_ok_iff.2 (by
    rintro error ⟨column, cell, hgives, hunread, -⟩
    obtain ⟨n, hread, hbounds⟩ := given.length column cell hgives
    exact hunread n hread hbounds)
  obtain ⟨minimum', hminimum, hreadMinimum⟩ := given.givesMinimum.exists_bound field
  obtain ⟨maximum', hmaximum, hreadMaximum⟩ := given.givesMaximum.exists_bound field
  obtain ⟨type, hname, hsuits⟩ := exists_suits minimum' maximum'
  have hrefined : refine .integer field row = .ok type.name := by
    unfold refine
    simp only [SheetType.refinement, minimumColumn, maximumColumn, hminimum, hmaximum, ← hname]
    rfl
  refine ⟨type, ?_, hsuits.of_readAs hreadMinimum hreadMaximum⟩
  unfold Chooses resolveType
  simp only [hdeclared, hknown, hlength, hrefined]
  exact ⟨_, rfl, rfl⟩

/-- Integer fields get the narrowest type: one that represents the range of their bounds, if any
integer type does, with no more bits than it takes. A bound that is given alone is held by the type
if any type holds it, and without bounds the type is `int64`. Enlarging a range never makes the type
smaller while there is one that represents it. -/
theorem chooses_narrowest (given : IntegerRow registry row minimum maximum) (field : FieldName) :
    ∃ type, Chooses registry field row type ∧ Suits minimum maximum type ∧
      ∀ {wider : Row} {minimum' maximum' : Option ℤ} {low high low' high' : ℤ}
        {other : IntegerType}, IntegerRow registry wider minimum' maximum' →
        StandsFor minimum maximum low high → low ≤ high →
        StandsFor minimum' maximum' low' high' → low' ≤ low → high ≤ high' →
        other.Represents low' high' →
          ∃ wide, Chooses registry field wider wide ∧ type.bits ≤ wide.bits := by
  obtain ⟨type, hchooses, hsuits⟩ := given.exists_chooses field
  refine ⟨type, hchooses, hsuits, ?_⟩
  intro wider minimum' maximum' low high low' high' other hwider stands nonempty stands' below above
    represents
  obtain ⟨wide, hwide, hsuits'⟩ := hwider.exists_chooses field
  refine ⟨wide, hwide, ?_⟩
  have hnarrow := hsuits.narrowest low high stands nonempty
  have hnarrow' := hsuits'.narrowest low' high' stands' (by omega)
  exact hnarrow.bits_le hnarrow' below above represents

end SheetSchema.Typing

namespace SheetSchema.Stock

/-- A field that may be overdrawn by one. -/
def balance : FieldName := ⟨⟨"shop", "Item"⟩, "balance"⟩

/-- Its row: an integer from -1, given as text, to the 31st power of two, given as a number. -/
def balanceRow : Row :=
  .ofList [("Type", .text "integer"), ("Minimum", .text " -1"),
    ("Maximum", .number (.natural 2147483648 (by decide)))]

theorem gives_minimum : Cell.Gives (.text " -1") (-1) :=
  @Cell.Gives.text " -1" true ['-'] ['1'] rfl .minus (List.cons_ne_nil _ _)
    (List.forall_mem_singleton.2 rfl)

theorem gives_maximum : Cell.Gives (.number (.natural 2147483648 (by decide))) 2147483648 :=
  Cell.gives_natural (by decide)

theorem integerRow_balance :
    Typing.IntegerRow .standard balanceRow (some (-1)) (some 2147483648) where
  declares := ⟨"integer", rfl, rfl⟩
  length column cell gives := by
    cases gives with
    | maximum filled => exact nomatch (show none = some cell from filled.1)
    | length _ filled => exact nomatch (show none = some cell from filled.1)
  givesMinimum := .integer rfl gives_minimum (by decide)
  givesMaximum := .integer rfl gives_maximum (by decide)

/-- Only the widest signed type represents the range. -/
theorem chooses_int64 : Typing.Chooses .standard balance balanceRow .int64 := by
  obtain ⟨type, hchooses, hsuits, -⟩ := Typing.chooses_narrowest integerRow_balance balance
  have hnonempty : (-1 : ℤ) ≤ 2147483648 := by decide
  have hint64 : Typing.IntegerType.int64.Represents (-1) 2147483648 :=
    (Typing.IntegerType.represents_iff hnonempty).2 (by decide)
  have hrepresents := (hsuits.narrowest _ _ (.both _ _) hnonempty _ hint64).1
  rw [Typing.IntegerType.represents_iff hnonempty] at hrepresents
  cases type with
  | int64 => exact hchooses
  | uint32 => exact absurd hrepresents (by decide)
  | int32 => exact absurd hrepresents (by decide)
  | uint64 => exact absurd hrepresents (by decide)

end SheetSchema.Stock
