import SheetSchema.Proofs.Extraction.Skipped

/-!
# Numbers of rows

The message about a row gives its number on the sheet, with the header as row 1. The number is
counted among the rows that the reader of spreadsheets keeps. A row of the sheet that fills nothing
is not among them, so every row below it is reported under a number that is too small.
-/

namespace SheetSchema

/-! ## What is wrong with a row -/

/-- What can be wrong with a row. -/
inductive RowCause where
  | notIdentifier (model : String)
  | beforeModel
  | withoutField

namespace RowCause

/-- The error about a row of this number. -/
def error (sheet : String) (number : ℕ) : RowCause → Error
  | notIdentifier model => .modelNotIdentifier sheet number model
  | beforeModel => .rowBeforeModel sheet number
  | withoutField => .rowWithoutField sheet number

/-- What the message says after the number of the row. -/
def text : RowCause → String
  | notIdentifier model => s!"model name '{model}' is not a valid identifier"
  | beforeModel => "data appears before any Model cell"
  | withoutField => "row has no Field value"

theorem message_error (sheet : String) (number : ℕ) (cause : RowCause) :
    (cause.error sheet number).message = Error.rowText sheet number cause.text := by
  cases cause <;> rfl

end RowCause

namespace Sheet

variable {sheet : String} {above : List Row} {row : Row} {cause : RowCause} {error : Error}

/-- Something is wrong with a row below some others, whatever its number is. -/
inductive Faulty (above : List Row) (row : Row) : RowCause → Prop
  | notIdentifier {model : String} (opens : Row.model? row = some model)
      (invalid : Text.isIdentifier model = false) : Faulty above row (.notIdentifier model)
  | beforeModel (filled : Row.isBlank row = false) (unopened : opened (above ++ [row]) = []) :
      Faulty above row .beforeModel
  | withoutField (filled : Row.isBlank row = false) (opened : opened above ≠ [])
      (unopened : Row.model? row = none) (nameless : Row.field? row = none) :
      Faulty above row .withoutField

/-- What is wrong with a row, told apart from the number it is reported with. -/
theorem rowFault_iff :
    RowFault sheet above row error ↔
      ∃ cause, Faulty above row cause ∧ error = cause.error sheet (above.length + 2) := by
  constructor
  · intro hfault
    cases hfault with
    | notIdentifier opens invalid => exact ⟨_, .notIdentifier opens invalid, rfl⟩
    | beforeModel filled unopened => exact ⟨_, .beforeModel filled unopened, rfl⟩
    | withoutField filled opened unopened nameless =>
      exact ⟨_, .withoutField filled opened unopened nameless, rfl⟩
  · intro h
    obtain ⟨cause, hfaulty, rfl⟩ := h
    cases hfaulty with
    | notIdentifier opens invalid => exact .notIdentifier opens invalid
    | beforeModel filled unopened => exact .beforeModel filled unopened
    | withoutField filled opened unopened nameless =>
      exact .withoutField filled opened unopened nameless

/-- Nothing is wrong with a blank row. -/
theorem Faulty.filled (faulty : Faulty above row cause) : Row.isBlank row = false := by
  cases faulty with
  | notIdentifier opens invalid =>
    rw [← Bool.not_eq_true]
    intro hblank
    rw [Row.model?_of_isBlank hblank] at opens
    contradiction
  | beforeModel filled => exact filled
  | withoutField filled => exact filled

/-! ## Rows that are kept -/

/-- Rows without those that fill nothing. -/
def kept (rows : List Row) : List Row := rows.filter fun row => row.size != 0

theorem isBlank_of_size_eq_zero (nothing : row.size = 0) : Row.isBlank row = true := by
  have hentries : row.entries = [] := List.length_eq_zero_iff.1 nothing
  unfold Row.isBlank OrderedMap.values
  rw [hentries]
  rfl

theorem Faulty.size_ne_zero (faulty : Faulty above row cause) : row.size ≠ 0 := by
  intro hnothing
  have hfilled := faulty.filled
  rw [isBlank_of_size_eq_zero hnothing] at hfilled
  contradiction

theorem kept_append_cons (filled : row.size ≠ 0) (above below : List Row) :
    kept (above ++ row :: below) = kept above ++ row :: kept below := by
  have hkept : (row.size != 0) = true := bne_iff_ne.2 filled
  unfold kept
  rw [List.filter_append, List.filter_cons, if_pos hkept]

/-- Rows that fill nothing open no model. -/
theorem opened_kept (rows : List Row) : opened (kept rows) = opened rows := by
  unfold opened kept
  rw [List.filterMap_filter]
  refine List.filterMap_congr fun row _ => ?_
  by_cases hnothing : row.size = 0
  · simp [hnothing, Row.model?_of_isBlank (isBlank_of_size_eq_zero hnothing)]
  · simp [hnothing]

/-- Rows without a cell have no part in what is wrong with a row below them. -/
theorem faulty_kept_iff : Faulty (kept above) row cause ↔ Faulty above row cause := by
  -- a fault looks at the rows above only for the models that they open
  have hopened : opened (kept above ++ [row]) = opened (above ++ [row]) := by
    rw [opened_append, opened_append, opened_kept]
  constructor
  · intro hfaulty
    cases hfaulty with
    | notIdentifier opens invalid => exact .notIdentifier opens invalid
    | beforeModel filled unopened => exact .beforeModel filled (hopened ▸ unopened)
    | withoutField filled opened unopened nameless =>
      exact .withoutField filled (opened_kept above ▸ opened) unopened nameless
  · intro hfaulty
    cases hfaulty with
    | notIdentifier opens invalid => exact .notIdentifier opens invalid
    | beforeModel filled unopened => exact .beforeModel filled (hopened.trans unopened)
    | withoutField filled opened unopened nameless =>
      exact .withoutField filled ((opened_kept above).symm ▸ opened) unopened nameless

/-- A row that is kept stands below the rows that are kept of those above it. -/
theorem exists_split_of_kept {rows above below : List Row}
    (split : kept rows = above ++ row :: below) :
    ∃ above' below', rows = above' ++ row :: below' ∧ kept above' = above := by
  obtain ⟨first, rest, rfl, hfirst, hrest⟩ := List.filter_eq_append_iff.1 split
  obtain ⟨gap, below', rfl, hgap, -, -⟩ := List.filter_eq_cons_iff.1 hrest
  -- rows left out right above the row go with those above it
  refine ⟨first ++ gap, below', by rw [List.append_assoc], ?_⟩
  rw [kept, List.filter_append, List.filter_eq_nil_iff.2 hgap, List.append_nil, hfirst]

/-- The first row with which something is wrong. -/
structure FirstFaulty (rows above : List Row) (row : Row) (cause : RowCause) : Prop where
  split : ∃ below, rows = above ++ row :: below
  faulty : Faulty above row cause
  clear : ∀ before other between, above = before ++ other :: between →
    ∀ cause, ¬ Faulty before other cause

/-- The rows that are kept are clear exactly if nothing is wrong with any row. -/
theorem clear_kept_iff {rows : List Row} :
    Clear sheet (kept rows) ↔
      ∀ before other between, rows = before ++ other :: between →
        ∀ cause, ¬ Faulty before other cause := by
  constructor
  · -- a row with which something is wrong is kept, so it stands in both lists
    rintro hclear before other between rfl cause hfaulty
    exact hclear (kept before) other (kept between)
      (kept_append_cons hfaulty.size_ne_zero before between) _
      (rowFault_iff.2 ⟨cause, faulty_kept_iff.2 hfaulty, rfl⟩)
  · intro hclear before other between hsplit error hfault
    obtain ⟨before', between', hrows, rfl⟩ := exists_split_of_kept hsplit
    obtain ⟨cause, hfaulty, -⟩ := rowFault_iff.1 hfault
    exact hclear before' other between' hrows cause (faulty_kept_iff.1 hfaulty)

theorem clear_of_models {sheet : Sheet} {models : RawPackage} (done : sheet.models = .ok models) :
    Clear sheet.name sheet.rows := by
  rcases clear_or_firstFault sheet.name sheet.rows with hclear | ⟨error, hfirst⟩
  · exact hclear
  · rw [models_of_firstFault hfirst] at done
    contradiction

/-- Of the rows that are kept, the first that is wrong is the first of all rows that is, and its
number counts the rows above it that are kept. -/
theorem firstFault_kept_iff {rows : List Row} :
    FirstFault sheet (kept rows) error ↔
      ∃ above row cause, FirstFaulty rows above row cause ∧
        error = cause.error sheet ((kept above).length + 2) := by
  constructor
  · intro h
    obtain ⟨above, row, below, hsplit, hclear, hfault⟩ := h
    obtain ⟨above', below', hrows, rfl⟩ := exists_split_of_kept hsplit
    obtain ⟨cause, hfaulty, herror⟩ := rowFault_iff.1 hfault
    exact ⟨above', row, cause,
      ⟨⟨below', hrows⟩, faulty_kept_iff.1 hfaulty, clear_kept_iff.1 hclear⟩, herror⟩
  · intro h
    obtain ⟨above, row, cause, ⟨⟨below, rfl⟩, hfaulty, hclear⟩, herror⟩ := h
    exact ⟨kept above, row, kept below, kept_append_cons hfaulty.size_ne_zero above below,
      clear_kept_iff.2 hclear, rowFault_iff.2 ⟨cause, faulty_kept_iff.2 hfaulty, herror⟩⟩

end Sheet

/-! ## Rows of a spreadsheet -/

/-- All rows of a grid below its header, those that fill nothing included. -/
def Grid.allRows (grid : Grid) : List Row :=
  match grid.rows with
  | [] => []
  | header :: rows => rows.map (row header)

theorem Grid.rows_sheet (grid : Grid) : grid.sheet.rows = Sheet.kept grid.allRows := by
  unfold sheet allRows
  cases grid.rows with
  | nil => rfl
  | cons header rows => rfl

namespace Extraction

/-- A workbook is refused for the first of its sheets of models that is. -/
theorem ofWorkbook_eq_error_iff {sheets : List Sheet} {error : Error} :
    ofWorkbook ⟨sheets⟩ = .error error ↔
      ∃ before sheet after extraction, sheets = before ++ sheet :: after ∧
        ofWorkbook ⟨before⟩ = .ok extraction ∧ sheet.declaresModels = true ∧
        sheet.models = .error error := by
  constructor
  · intro hfailed
    obtain ⟨before, sheet, after, reached, rfl, hreached, hsheet⟩ :=
      exists_step_of_foldlM_eq_error hfailed
    refine ⟨before, sheet, after, reached, rfl, hreached, ?_⟩
    unfold addSheet at hsheet
    split at hsheet
    · next hdeclares =>
      -- adding the models of a sheet cannot fail, so reading them did
      rcases bind_eq_error_iff.1 hsheet with hmodels | ⟨models, -, hadded⟩
      · exact ⟨hdeclares, hmodels⟩
      · split at hadded <;> contradiction
    · contradiction
  · intro h
    obtain ⟨before, sheet, after, extraction, rfl, hstart, hdeclares, hmodels⟩ := h
    exact ofWorkbook_of_models_eq_error hdeclares hmodels hstart

/-- The row for which a spreadsheet is refused: the first of its sheet with which something is
wrong, on the first sheet of models that has such a row. -/
structure RefusedAt (grids : List Grid) (grid : Grid) (above : List Row) (row : Row)
    (cause : RowCause) : Prop where
  sheets : ∃ before after extraction, grids = before ++ grid :: after ∧
    ofWorkbook (.ofGrids before) = .ok extraction
  declares : grid.sheet.declaresModels = true
  first : Sheet.FirstFaulty grid.allRows above row cause

/-- A spreadsheet is refused for a row of one of its grids, by its place among the rows that are
kept. -/
theorem ofWorkbook_ofGrids_eq_error_iff {grids : List Grid} {error : Error} :
    ofWorkbook (.ofGrids grids) = .error error ↔
      ∃ grid above row cause, RefusedAt grids grid above row cause ∧
        error = cause.error grid.name ((Sheet.kept above).length + 2) := by
  unfold Workbook.ofGrids
  rw [ofWorkbook_eq_error_iff]
  constructor
  · intro h
    obtain ⟨before, sheet, after, extraction, hsplit, hstart, hdeclares, hmodels⟩ := h
    obtain ⟨first, rest, rfl, rfl, hrest⟩ := List.map_eq_append_iff.1 hsplit
    obtain ⟨grid, others, rfl, rfl, -⟩ := List.map_eq_cons_iff.1 hrest
    have hfault := Sheet.models_eq_error_iff.1 hmodels
    rw [grid.rows_sheet] at hfault
    obtain ⟨above, row, cause, hfirst, herror⟩ := Sheet.firstFault_kept_iff.1 hfault
    exact ⟨grid, above, row, cause, ⟨⟨first, others, extraction, rfl, hstart⟩, hdeclares, hfirst⟩,
      herror⟩
  · intro h
    obtain ⟨grid, above, row, cause, hrefused, herror⟩ := h
    obtain ⟨before, after, extraction, rfl, hstart⟩ := hrefused.sheets
    refine ⟨before.map Grid.sheet, grid.sheet, after.map Grid.sheet, extraction,
      by rw [List.map_append, List.map_cons], hstart, hrefused.declares, ?_⟩
    refine Sheet.models_eq_error_iff.2 ?_
    rw [grid.rows_sheet]
    exact Sheet.firstFault_kept_iff.2 ⟨above, row, cause, hrefused.first, herror⟩

/-- A spreadsheet is refused for one row, and the message gives a number and what is wrong with that
row. The number counts the rows above it that fill something, from the header on, so it is the
number of the row on its sheet exactly if every row above it fills something. -/
theorem numbers_rows_that_fill (grids : List Grid) (error : Error) :
    ofWorkbook (.ofGrids grids) = .error error ↔
      ∃ grid above row cause number, RefusedAt grids grid above row cause ∧
        number = (Sheet.kept above).length + 2 ∧ error = cause.error grid.name number ∧
        error.message = Error.rowText grid.name number cause.text ∧
        (number = above.length + 2 ↔ ∀ other ∈ above, other.size ≠ 0) := by
  rw [ofWorkbook_ofGrids_eq_error_iff]
  constructor
  · intro h
    obtain ⟨grid, above, row, cause, hrefused, rfl⟩ := h
    refine ⟨grid, above, row, cause, _, hrefused, rfl, rfl, cause.message_error _ _, ?_⟩
    rw [Nat.add_right_cancel_iff, Sheet.kept, List.length_filter_eq_length_iff]
    simp only [bne_iff_ne]
  · intro h
    obtain ⟨grid, above, row, cause, _, hrefused, rfl, herror, -, -⟩ := h
    exact ⟨grid, above, row, cause, hrefused, herror⟩

end Extraction

/-! ## A logbook

The second of its rows is left blank, and the third has neither a model nor a field.
-/

namespace Logbook

/-- Header of the sheet. -/
def header : List GridCell := [.text "Model", .text "Field", .text "Type"]

/-- A sheet whose rows 2 to 4 are an entry, nothing, and a type alone. -/
def visits : Grid := ⟨"visits", [
  header,
  [.text "Visit", .text "id", .text "uuid"],
  [.empty, .empty, .empty],
  [.empty, .empty, .text "string"]]⟩

/-- The row that opens the model. -/
def opening : Row := .ofList [("Model", .text "Visit"), ("Field", .text "id"), ("Type", .text "uuid")]

/-- The row without a field. -/
def nameless : Row := .ofList [("Type", .text "string")]

/-- The rows above that one are read. -/
theorem firstFaulty : Sheet.FirstFaulty visits.allRows [opening, .empty] nameless .withoutField where
  split := ⟨[], rfl⟩
  faulty := .withoutField rfl (by decide +kernel) rfl rfl
  clear := by
    have hread : (⟨visits.name, Sheet.kept [opening, .empty]⟩ : Sheet).models =
      .ok (.ofList [("Visit", .ofList [("id", .ofList [("Type", .text "uuid")])])]) := by rfl
    exact Sheet.clear_kept_iff.1 (Sheet.clear_of_models hread)

/-- The row on line 4 is the first with which something is wrong, and it is reported as row 3. -/
theorem fourth_row_is_reported_as_third :
    Extraction.RefusedAt [visits] visits [opening, .empty] nameless .withoutField ∧
      [opening, .empty].length + 2 = 4 ∧
      Extraction.ofWorkbook (.ofGrids [visits]) = .error (.rowWithoutField "visits" 3) :=
  ⟨⟨⟨[], [], .empty, rfl, rfl⟩, by decide +kernel, firstFaulty⟩, rfl, by rfl⟩

end Logbook

end SheetSchema
