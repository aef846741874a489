import SheetSchema.Proofs.Typing.Faults

/-!
# The first bound that cannot be read

Of several columns of a row that cannot be read, one is reported. Columns are read in a fixed order:
the length comes before the minimum, and the minimum before the maximum.
-/

namespace SheetSchema.Typing

/-! ## The first column that cannot be read -/

/-- Columns that bound a field, in the order in which they are read. -/
def boundColumns : List String := ["MaximumLength", "length", "Minimum", "Maximum"]

/-- A column cannot be read, and every column before it can. -/
structure FirstUnreadable (registry : Registry) (row : Row) (column text : String) : Prop where
  unreadable : Unreadable registry row column text
  first : ∀ earlier ∈ boundColumns.takeWhile (· != column), ∀ other,
    ¬ Unreadable registry row earlier other

/-- Of two items of a list one comes before the other. -/
theorem mem_takeWhile_or {items : List String} {first second : String} (differ : first ≠ second)
    (member : first ∈ items) (member' : second ∈ items) :
    first ∈ items.takeWhile (· != second) ∨ second ∈ items.takeWhile (· != first) := by
  induction items with
  | nil => simp at member
  | cons head rest ih =>
    by_cases hfirst : head = first
    · left
      rw [List.takeWhile_cons_of_pos (by simpa [hfirst] using differ), hfirst]
      exact List.mem_cons_self
    · by_cases hsecond : head = second
      · right
        rw [List.takeWhile_cons_of_pos (by simpa [hsecond] using Ne.symm differ), hsecond]
        exact List.mem_cons_self
      · rw [List.takeWhile_cons_of_pos (by simpa using hsecond),
          List.takeWhile_cons_of_pos (by simpa using hfirst)]
        refine (ih ?_ ?_).imp (List.mem_cons_of_mem _) (List.mem_cons_of_mem _)
        · exact (List.mem_cons.1 member).resolve_left (Ne.symm hfirst)
        · exact (List.mem_cons.1 member').resolve_left (Ne.symm hsecond)

section

variable {registry : Registry} {row : Row} {domain : SheetType} {column text : String}

theorem Fills.unique {cell cell' : Cell} (one : Fills row column cell)
    (other : Fills row column cell') : cell = cell' :=
  Option.some.inj (one.1.symm.trans other.1)

theorem GivesLength.mem_lengthColumns {cell : Cell} (gives : GivesLength row column cell) :
    column ∈ lengthColumns := by
  cases gives <;> decide

/-- The columns of a length are given by one cell. -/
theorem GivesLength.unique {column' : String} {cell cell' : Cell}
    (one : GivesLength row column cell) (other : GivesLength row column' cell') :
    column = column' ∧ cell = cell' := by
  have hsame := (givesLength_iff.1 one).symm.trans (givesLength_iff.1 other)
  rw [Option.some.injEq] at hsame
  exact Prod.mk.inj hsame

/-- Bounds stand in two columns. -/
theorem UnreadBound.column_eq (unread : UnreadBound domain row column text) :
    column = minimumColumn ∨ column = maximumColumn := by
  cases unread with
  | integer _ bounds => exact bounds
  | float _ bounds => exact bounds

theorem UnreadBound.notMem_lengthColumns (unread : UnreadBound domain row column text) :
    column ∉ lengthColumns := by
  rcases unread.column_eq with rfl | rfl <;> decide

/-- A column has one text that cannot be read. -/
theorem UnreadBound.unique {text' : String} (one : UnreadBound domain row column text)
    (other : UnreadBound domain row column text') : text = text' := by
  cases one with
  | integer refined _ filled unread =>
    cases other with
    | integer _ _ filled' unread' =>
      rw [filled.unique filled', unread'] at unread
      exact (Except.error.inj unread).symm
    | float refined' => rw [refined] at refined'; contradiction
  | float refined _ filled unread =>
    cases other with
    | integer refined' => rw [refined] at refined'; contradiction
    | float _ _ filled' unread' =>
      rw [filled.unique filled', unread'] at unread
      exact (Except.error.inj unread).symm

theorem Unreadable.mem_boundColumns (unreadable : Unreadable registry row column text) :
    column ∈ boundColumns := by
  cases unreadable with
  | length _ gives =>
    have hcolumns : ∀ column ∈ lengthColumns, column ∈ boundColumns := by decide
    exact hcolumns column gives.mem_lengthColumns
  | bound _ unread => rcases unread.column_eq with rfl | rfl <;> decide

/-- A column is reported with one text. -/
theorem Unreadable.unique {text' : String} (one : Unreadable registry row column text)
    (other : Unreadable registry row column text') : text = text' := by
  cases one with
  | length _ gives =>
    cases other with
    | length _ gives' => rw [(gives.unique gives').2]
    | bound _ unread => exact absurd gives.mem_lengthColumns unread.notMem_lengthColumns
  | bound declares unread =>
    cases other with
    | length _ gives => exact absurd gives.mem_lengthColumns unread.notMem_lengthColumns
    | bound declares' unread' =>
      rw [declares'.unique declares] at unread'
      exact unread.unique unread'

/-- Only one column is the first that cannot be read. -/
theorem FirstUnreadable.unique {column' text' : String}
    (one : FirstUnreadable registry row column text)
    (other : FirstUnreadable registry row column' text') : column = column' ∧ text = text' := by
  by_cases hcolumn : column = column'
  · subst hcolumn
    exact ⟨rfl, one.unreadable.unique other.unreadable⟩
  · -- the columns are read in turn, so one of them comes first
    rcases mem_takeWhile_or hcolumn one.unreadable.mem_boundColumns
      other.unreadable.mem_boundColumns with hmem | hmem
    · exact absurd one.unreadable (other.first column hmem text)
    · exact absurd other.unreadable (one.first column' hmem text')

/-! ## The error of a field -/

/-- If the length is read, no column of a length is at fault. -/
theorem not_unreadable_of_length {name : FieldName} {length : Option Nat}
    (done : lengthLimit name row = .ok length) (member : column ∈ lengthColumns) :
    ¬ Unreadable registry row column text := by
  intro hunreadable
  cases hunreadable with
  | length _ gives unread =>
    exact (lengthLimit_failsExactly name row).sound length done _ ⟨column, _, gives, unread, rfl⟩
  | bound _ unread => exact unread.notMem_lengthColumns member

/-- The columns of a length are looked at before all others. -/
theorem firstUnreadable_of_length {cell : Cell} (declares : Declares registry row domain)
    (gives : GivesLength row column cell)
    (unread : ∀ n : Int, cell.integer = .ok n → ¬ (0 ≤ n ∧ n < 2 ^ 64)) :
    FirstUnreadable registry row column cell.toText where
  unreadable := .length declares gives unread
  first earlier hearlier other hunreadable := by
    have hlength : earlier ∈ lengthColumns ∧ earlier ≠ column := by
      cases gives with
      | maximum => simp [boundColumns] at hearlier
      | length =>
        have hcolumns : boundColumns.takeWhile (· != "length") = ["MaximumLength"] := by decide
        rw [hcolumns, List.mem_singleton] at hearlier
        subst hearlier
        decide
    cases hunreadable with
    | length _ gives' => exact hlength.2 (gives'.unique gives).1
    | bound _ unread' => exact unread'.notMem_lengthColumns hlength.1

/-- The minimum is looked at before the maximum. -/
theorem bounds_eq_error {α β : Type} {read : Cell → Except String α} {name : FieldName}
    {choose : Option α → Option α → β} {error : Error}
    (failed : (do
        let minimum ← bound read name row minimumColumn
        let maximum ← bound read name row maximumColumn
        .ok (choose minimum maximum)) = .error error) :
    ∃ column cell text, (column = minimumColumn ∨ column = maximumColumn) ∧
      Fills row column cell ∧ read cell = .error text ∧
      (column = maximumColumn →
        ∀ other text', Fills row minimumColumn other → read other ≠ .error text') ∧
      error = .invalidBound name column text := by
  rcases bind_eq_error_iff.1 failed with hminimum | ⟨minimum, hminimum, hrest⟩
  · obtain ⟨cell, text, hfills, hunread, herror⟩ :=
      (bound_failsExactly read name row minimumColumn).fault error hminimum
    have hdiffer : minimumColumn ≠ maximumColumn := by decide
    exact ⟨minimumColumn, cell, text, Or.inl rfl, hfills, hunread,
      fun hsame => absurd hsame hdiffer, herror⟩
  · rcases bind_eq_error_iff.1 hrest with hmaximum | ⟨maximum, -, hnever⟩
    · obtain ⟨cell, text, hfills, hunread, herror⟩ :=
        (bound_failsExactly read name row maximumColumn).fault error hmaximum
      refine ⟨maximumColumn, cell, text, Or.inr rfl, hfills, hunread, ?_, herror⟩
      intro _ other text' hother hread
      exact (bound_failsExactly read name row minimumColumn).sound minimum hminimum _
        ⟨other, text', hother, hread, rfl⟩
    · contradiction

/-- Refining a type fails at the lower bound before the upper one. -/
theorem refine_eq_error {name : FieldName} {error : Error}
    (failed : refine domain name row = .error error) :
    ∃ column text, UnreadBound domain row column text ∧
      (column = maximumColumn → ∀ other, ¬ UnreadBound domain row minimumColumn other) ∧
      error = .invalidBound name column text := by
  unfold refine at failed
  cases hrefinement : domain.refinement with
  | none =>
    rw [hrefinement] at failed
    contradiction
  | temporal =>
    rw [hrefinement] at failed
    contradiction
  | integer =>
    rw [hrefinement] at failed
    obtain ⟨column, cell, text, hbounds, hfills, hunread, hminimum, herror⟩ :=
      bounds_eq_error failed
    refine ⟨column, text, .integer hrefinement hbounds hfills hunread, ?_, herror⟩
    intro hcolumn other hother
    cases hother with
    | integer _ _ filled unread => exact hminimum hcolumn _ _ filled unread
    | float refined => rw [hrefinement] at refined; contradiction
  | float =>
    rw [hrefinement] at failed
    obtain ⟨column, cell, text, hbounds, hfills, hunread, hminimum, herror⟩ :=
      bounds_eq_error failed
    refine ⟨column, text, .float hrefinement hbounds hfills hunread, ?_, herror⟩
    intro hcolumn other hother
    cases hother with
    | integer refined => rw [hrefinement] at refined; contradiction
    | float _ _ filled unread => exact hminimum hcolumn _ _ filled unread

/-- Once the length is read, the minimum comes first. -/
theorem firstUnreadable_of_bound {name : FieldName} {length : Option Nat}
    (declares : Declares registry row domain) (done : lengthLimit name row = .ok length)
    (unread : UnreadBound domain row column text)
    (minimum : column = maximumColumn → ∀ other, ¬ UnreadBound domain row minimumColumn other) :
    FirstUnreadable registry row column text where
  unreadable := .bound declares unread
  first earlier hearlier other hunreadable := by
    by_cases hlength : earlier ∈ lengthColumns
    · exact not_unreadable_of_length done hlength hunreadable
    · -- the only other column that can come before is the minimum, before the maximum
      have hminimum : earlier = minimumColumn ∧ column = maximumColumn := by
        rcases unread.column_eq with rfl | rfl
        · have hcolumns : boundColumns.takeWhile (· != minimumColumn) = lengthColumns := by decide
          exact absurd (hcolumns ▸ hearlier) hlength
        · have hcolumns : boundColumns.takeWhile (· != maximumColumn) =
              lengthColumns ++ [minimumColumn] := by decide
          rw [hcolumns, List.mem_append, List.mem_singleton] at hearlier
          exact ⟨hearlier.resolve_left hlength, rfl⟩
      cases hunreadable with
      | length _ gives => exact hlength gives.mem_lengthColumns
      | bound declares' unread' =>
        rw [declares'.unique declares, hminimum.1] at unread'
        exact minimum hminimum.2 other unread'

/-- Resolving a type fails for an unknown type or the first column that cannot be read. -/
theorem resolveType_eq_error {name : FieldName} {error : Error}
    (failed : resolveType registry name row = .error error) :
    (∃ declared, error = .unknownType name declared) ∨
      ∃ column text, FirstUnreadable registry row column text ∧
        error = .invalidBound name column text := by
  unfold resolveType at failed
  split at failed
  · contradiction
  · next declared hdeclared =>
    split at failed
    · exact Or.inl ⟨declared, (Except.error.inj failed).symm⟩
    · next domain hknown =>
      have hdeclares : Declares registry row domain := ⟨declared, hdeclared, hknown⟩
      right
      rcases bind_eq_error_iff.1 failed with hlength | ⟨length, hlength, hrest⟩
      · obtain ⟨column, cell, hgives, hunread, herror⟩ :=
          (lengthLimit_failsExactly name row).fault error hlength
        exact ⟨column, cell.toText, firstUnreadable_of_length hdeclares hgives hunread, herror⟩
      · rcases bind_eq_error_iff.1 hrest with hrefine | ⟨type, -, hnever⟩
        · obtain ⟨column, text, hunread, hminimum, herror⟩ := refine_eq_error hrefine
          exact ⟨column, text, firstUnreadable_of_bound hdeclares hlength hunread hminimum, herror⟩
        · contradiction

/-- The error of a field is that of the first column that cannot be read. -/
theorem resolveField_eq_error_iff {name : FieldName} {error : Error} :
    resolveField registry name.owner name.field row = .error error ↔
      '.' ∉ name.field.toList ∧ ∃ column text, FirstUnreadable registry row column text ∧
        error = .invalidBound name column text := by
  have hfaults := resolveField_failsExactly registry name.owner name.field row
  have hfirst : ∀ error, resolveField registry name.owner name.field row = .error error →
      '.' ∉ name.field.toList ∧ ∃ column text, FirstUnreadable registry row column text ∧
        error = .invalidBound name column text := by
    intro error hfailed
    unfold resolveField at hfailed
    split at hfailed
    · contradiction
    · next hundotted =>
      refine ⟨fun hdot => hundotted (isDotted_iff.2 hdot), ?_⟩
      split at hfailed
      · contradiction
      · contradiction
      · contradiction
      · next failure hother hfailure =>
        obtain rfl := Except.error.inj hfailed
        exact (resolveType_eq_error hfailure).resolve_left fun h => by
          obtain ⟨declared, rfl⟩ := h
          exact hother _ _ rfl
  constructor
  · exact hfirst error
  · intro h
    obtain ⟨hplain, column, text, hunreadable, rfl⟩ := h
    cases hresult : resolveField registry name.owner name.field row with
    | ok resolution =>
      exact absurd (.unread hplain hunreadable.unreadable) (hfaults.sound resolution hresult _)
    | error error =>
      obtain ⟨-, column', text', hunreadable', rfl⟩ := hfirst error hresult
      obtain ⟨rfl, rfl⟩ := hunreadable.unique hunreadable'
      rfl

end

end SheetSchema.Typing
