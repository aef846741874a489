import SheetSchema.Proofs.Extraction.Models
import SheetSchema.Workbook.Spreadsheet

/-!
# Rows before the first model

A row that comes before any model is opened is an error. It is found in rows that spell out an empty
model cell, as they do where a workbook is written by hand. The reader of spreadsheets leaves empty
cells out of rows, and a sheet declares models only if its first row starts with the model column:
where that cell of the first row is empty, the sheet is none of models, and it is passed over with
all its rows.
-/

namespace SheetSchema

/-! ## Rows that spell out their model cell -/

namespace Sheet

/-- There is nothing wrong with blank rows. -/
theorem clear_of_blank {sheet : String} {rows : List Row}
    (blank : ∀ row ∈ rows, Row.isBlank row = true) : Clear sheet rows := by
  rintro above row below rfl error hfault
  have hrow : Row.isBlank row = true := blank row (by simp)
  have hmodel := Row.model?_of_isBlank hrow
  cases hfault <;> simp_all

/-- Below blank rows, a row that opens no model is the error of its sheet. -/
theorem models_of_unopened {sheet : Sheet} {above below : List Row} {row : Row}
    (rows : sheet.rows = above ++ row :: below) (blank : ∀ other ∈ above, Row.isBlank other = true)
    (filled : Row.isBlank row = false) (unopened : Row.model? row = none) :
    sheet.models = .error (.rowBeforeModel sheet.name (above.length + 2)) := by
  have habove : opened above = [] :=
    List.filterMap_eq_nil_iff.2 fun other hother => Row.model?_of_isBlank (blank other hother)
  have hopened : opened (above ++ [row]) = [] := by
    rw [opened_append, habove, unopened]
    rfl
  exact models_of_firstFault
    ⟨above, row, below, rows, clear_of_blank blank, .beforeModel filled hopened⟩

end Sheet

/-- The row with its model cell spelled out as empty text in front, if it has none. -/
def Row.spellModel (row : Row) : Row :=
  if Names.modelColumn ∈ row.keys then row
  else .ofList ((Names.modelColumn, .text "") :: row.entries)

namespace Row

variable {row : Row}

theorem entries_spellModel (absent : Names.modelColumn ∉ row.keys) :
    row.spellModel.entries = (Names.modelColumn, .text "") :: row.entries := by
  unfold spellModel
  rw [if_neg absent]
  exact OrderedMap.entries_ofList (List.nodup_cons.2 ⟨absent, row.nodup⟩)

theorem model?_spellModel (absent : Names.modelColumn ∉ row.keys) :
    Row.model? row.spellModel = none := by
  have hcell : row.spellModel.get? Names.modelColumn = some (.text "") := by
    rw [← OrderedMap.mem_entries_iff, entries_spellModel absent]
    exact List.mem_cons_self
  unfold model?
  rw [hcell]
  rfl

/-- Spelling out an empty model cell does not fill a row. -/
theorem isBlank_spellModel (absent : Names.modelColumn ∉ row.keys) :
    Row.isBlank row.spellModel = Row.isBlank row := by
  unfold isBlank OrderedMap.values
  rw [entries_spellModel absent, List.map_cons, List.all_cons]
  rfl

end Row

/-! ## Rows of a spreadsheet -/

namespace Grid

variable {header cells : List GridCell}

/-- A row has a cell that counts below a column of this name. -/
def Fills (header cells : List GridCell) (column : String) : Prop :=
  ∃ title cell value, (title, cell) ∈ header.zip cells ∧ title.column? = some column ∧
    cell.cell? = some value

theorem mem_keys_row_iff {column : String} :
    column ∈ (row header cells).keys ↔ Fills header cells column := by
  unfold row namedCells Fills
  rw [OrderedMap.mem_keys_ofList]
  simp only [List.mem_map, List.mem_filterMap, Option.map_eq_some_iff, Prod.exists]
  constructor
  · intro h
    obtain ⟨_, _, ⟨_, cell, ⟨title, _, hmem, _, hcolumn, hnamed⟩, value, hvalue, hentry⟩, hkey⟩ := h
    obtain ⟨rfl, rfl⟩ := Prod.mk.inj hnamed
    obtain ⟨rfl, rfl⟩ := Prod.mk.inj hentry
    exact ⟨title, _, value, hmem, hkey ▸ hcolumn, hvalue⟩
  · intro h
    obtain ⟨title, cell, value, hmem, hcolumn, hvalue⟩ := h
    exact ⟨column, value, ⟨column, cell, ⟨title, cell, hmem, column, hcolumn, rfl⟩, value, hvalue,
      rfl⟩, rfl⟩

/-- A row that fills a column is kept. -/
theorem size_row_of_fills {column : String} (fills : Fills header cells column) :
    ((row header cells).size != 0) = true := by
  have hkeys : 0 < (row header cells).keys.length :=
    List.length_pos_of_mem (mem_keys_row_iff.2 fills)
  unfold OrderedMap.keys at hkeys
  rw [List.length_map] at hkeys
  rw [bne_iff_ne]
  exact Nat.ne_of_gt hkeys

/-- Some row fills a column, and neither it nor a row above it fills the model column. -/
def StartsUnopened (header : List GridCell) (rows : List (List GridCell)) : Prop :=
  ∃ above cells below, rows = above ++ cells :: below ∧ (∃ column, Fills header cells column) ∧
    ∀ other ∈ above ++ [cells], ¬ Fills header other Names.modelColumn

/-- Then the first row that is kept has no model cell. -/
theorem exists_head_dataRows {rows : List (List GridCell)}
    (unopened : StartsUnopened header rows) :
    ∃ first rest, dataRows (header :: rows) = first :: rest ∧ Names.modelColumn ∉ first.keys := by
  obtain ⟨above, cells, below, rfl, ⟨column, hcolumn⟩, hmodel⟩ := unopened
  simp only [dataRows]
  induction above with
  | nil =>
    have hkept : ((row header cells).size != 0) = true := size_row_of_fills hcolumn
    rw [List.nil_append, List.map_cons, List.filter_cons, if_pos hkept]
    exact ⟨_, _, rfl, fun hmem =>
      hmodel cells List.mem_cons_self (mem_keys_row_iff.1 hmem)⟩
  | cons first rest ih =>
    rw [List.cons_append, List.map_cons]
    by_cases hkept : ((row header first).size != 0) = true
    · rw [List.filter_cons, if_pos hkept]
      exact ⟨_, _, rfl, fun hmem =>
        hmodel first List.mem_cons_self (mem_keys_row_iff.1 hmem)⟩
    · rw [List.filter_cons, if_neg hkept]
      exact ih fun other hother => hmodel other (List.mem_cons_of_mem _ hother)

/-- Such a sheet declares no models. -/
theorem declaresModels_sheet {grid : Grid} {rows : List (List GridCell)}
    (read : grid.rows = header :: rows) (unopened : StartsUnopened header rows) :
    grid.sheet.declaresModels = false := by
  obtain ⟨first, rest, hrows, habsent⟩ := exists_head_dataRows unopened
  unfold sheet Sheet.declaresModels
  simp only [read, hrows]
  rw [beq_eq_false_iff_ne]
  intro hhead
  exact habsent (List.mem_of_head? hhead)

end Grid

namespace Extraction

/-- A sheet that declares no models adds nothing. -/
theorem addSheet_of_not_declaresModels {extraction : Extraction} {sheet : Sheet}
    (other : sheet.declaresModels = false) : extraction.addSheet sheet = .ok extraction := by
  unfold addSheet
  rw [other]
  rfl

/-- The error of a sheet is the error of its workbook if the sheets before it can be read. -/
theorem ofWorkbook_of_models_eq_error {before after : List Sheet} {sheet : Sheet}
    {extraction : Extraction} {error : Error} (declares : sheet.declaresModels = true)
    (failed : sheet.models = .error error) (start : ofWorkbook ⟨before⟩ = .ok extraction) :
    ofWorkbook ⟨before ++ sheet :: after⟩ = .error error := by
  have hsheet : extraction.addSheet sheet = .error error := by
    unfold addSheet
    rw [if_pos declares, failed]
    rfl
  unfold ofWorkbook at start ⊢
  rw [List.foldlM_append, start]
  show (sheet :: after).foldlM addSheet extraction = _
  rw [List.foldlM_cons, hsheet]
  rfl

/-- A sheet of a spreadsheet on which some row comes before the first model is passed over, whatever
else it holds: the workbook is extracted as if it had no such sheet. With the model cells spelled
out the same rows are refused, at the row below the header if that has any text. -/
theorem skips_unopened_sheet {before after : List Grid} {grid : Grid} {header : List GridCell}
    {rows : List (List GridCell)} (read : grid.rows = header :: rows)
    (unopened : Grid.StartsUnopened header rows) :
    ofWorkbook (.ofGrids (before ++ grid :: after)) = ofWorkbook (.ofGrids (before ++ after)) ∧
      ∀ first rest extraction, grid.sheet.rows = first :: rest → Row.isBlank first = false →
        ofWorkbook (.ofGrids before) = .ok extraction →
          ofWorkbook ⟨before.map Grid.sheet ++
              ⟨grid.name, grid.sheet.rows.map Row.spellModel⟩ :: after.map Grid.sheet⟩ =
            .error (.rowBeforeModel grid.name 2) := by
  constructor
  · unfold ofWorkbook Workbook.ofGrids
    simp only [List.map_append, List.map_cons, List.foldlM_append, List.foldlM_cons,
      addSheet_of_not_declaresModels (Grid.declaresModels_sheet read unopened)]
    rfl
  · -- spelled out, the row below the header starts with a blank model cell, so the sheet is read
    intro first rest extraction hrows hfilled hstart
    obtain ⟨first', rest', hrows', habsent⟩ := Grid.exists_head_dataRows unopened
    have hsame : first' :: rest' = first :: rest := by
      rw [← hrows', ← hrows, Grid.sheet, read]
    obtain ⟨rfl, rfl⟩ := List.cons.inj hsame
    have hspelled : (first' :: rest').map Row.spellModel =
        [] ++ Row.spellModel first' :: rest'.map Row.spellModel := rfl
    rw [hrows]
    refine ofWorkbook_of_models_eq_error ?_ ?_ hstart
    · show ((first'.spellModel.keys.head? == some Names.modelColumn) = true)
      unfold OrderedMap.keys
      rw [Row.entries_spellModel habsent]
      rfl
    · exact Sheet.models_of_unopened hspelled (fun _ hmem => absurd hmem List.not_mem_nil)
        ((Row.isBlank_spellModel habsent).trans hfilled) (Row.model?_spellModel habsent)

end Extraction

/-! ## A roster

The row of its first field stands above the row that opens the model.
-/

namespace Roster

/-- Header of the sheets. -/
def header : List GridCell := [.text "Model", .text "Field", .text "Type"]

/-- Rows of the sheet of users. -/
def rows : List (List GridCell) :=
  [[.empty, .text "id", .text "uuid"], [.text "User", .text "name", .text "string"]]

/-- A sheet whose first row leaves its model cell empty. -/
def users : Grid := ⟨"users", header :: rows⟩

/-- A sheet in order. -/
def teams : Grid := ⟨"teams", [header, [.text "Team", .text "id", .text "uuid"]]⟩

theorem startsUnopened : Grid.StartsUnopened header rows := by
  refine ⟨[], [.empty, .text "id", .text "uuid"], [[.text "User", .text "name", .text "string"]],
    rfl, ⟨"Field", ?_⟩, ?_⟩
  · rw [← Grid.mem_keys_row_iff]
    decide +kernel
  · intro other hother
    rw [List.nil_append, List.mem_singleton] at hother
    subst hother
    rw [← Grid.mem_keys_row_iff]
    decide +kernel

/-- The roster is extracted as if it only had teams. -/
theorem skips_users :
    Grid.StartsUnopened header rows ∧
      Extraction.ofWorkbook (.ofGrids [users, teams]) =
        Extraction.ofWorkbook (.ofGrids [teams]) := by
  have hskipped : Extraction.ofWorkbook (.ofGrids ([] ++ users :: [teams])) =
      Extraction.ofWorkbook (.ofGrids ([] ++ [teams])) :=
    (Extraction.skips_unopened_sheet rfl startsUnopened).1
  exact ⟨startsUnopened, hskipped⟩

/-- The header starts with the model column and has no column twice, the first row has a field and
no model, and still the sheet is extracted, and as nothing. -/
theorem users_extract_to_nothing :
    header.map GridCell.column? = [some "Model", some "Field", some "Type"] ∧
      Grid.StartsUnopened header rows ∧
      Extraction.ofWorkbook (.ofGrids [users]) = .ok .empty :=
  ⟨by decide +kernel, startsUnopened, by rfl⟩

end Roster

end SheetSchema
