import SheetSchema.Proofs.Cell.Document
import SheetSchema.Proofs.Schema.Cells
import SheetSchema.Workbook.Spreadsheet
import SheetSchema.Workbook.Yaml

/-!
# Cells of workbooks that are read

The records in the cells of a workbook are sorted, whether the workbook is read from JSON, from YAML
or from the grids of a spreadsheet.
-/

namespace SheetSchema

/-! ## JSON -/

/-- Cells of a row that is read fit what the reader allows. -/
theorem Row.fits_of_ofJson? {room : ℕ} {json : Json} {row : Row}
    (read : Row.ofJson? (room + 1) json = some row) : Row.EveryCell (Cell.Fits room) row :=
  Json.every_of_map? read fun json _ => Cell.fits_of_ofJson? json

/-- The rows of a map of sheets are the rows of its workbook. -/
theorem Workbook.everyCell_ofMap {P : Cell → Prop} {sheets : OrderedMap (List Row)}
    (every : sheets.Every fun rows => ∀ row ∈ rows, Row.EveryCell P row) :
    (Workbook.ofMap sheets).EveryCell P := by
  intro sheet hsheet
  obtain ⟨entry, hentry, rfl⟩ := List.mem_map.1 hsheet
  exact every entry hentry

/-- A workbook that is read from JSON has canonical cells. -/
theorem Workbook.canonical_ofJsonText {text : String} {workbook : Workbook}
    (read : ofJsonText text = .ok workbook) : workbook.EveryCell Cell.Canonical := by
  unfold ofJsonText at read
  split at read
  · next workbook' hread =>
    obtain rfl := Except.ok.inj read
    obtain ⟨json, -, hjson⟩ := Option.bind_eq_some_iff.1 hread
    obtain ⟨sheets, hsheets, rfl⟩ := Option.map_eq_some_iff.1 hjson
    refine everyCell_ofMap (Json.every_of_map? hsheets ?_)
    intro json rows hrows row hrow
    cases json with
    | array items =>
      obtain ⟨item, -, hitem⟩ :=
        exists_mem_of_forall₂ (List.Forall₂.flip (mapM_eq_some_iff.1 hrows)) hrow
      exact (Row.fits_of_ofJson? hitem).imp fun _ hfits => hfits.canonical
    | _ => contradiction
  · contradiction

/-! ## YAML -/

namespace Yaml

variable {α β : Type}

/-- Two decoders in sequence, taken apart. -/
theorem decoder_bind_eq_some_iff {first : Decoder α} {second : α → Decoder β} {left : ℕ}
    {result : β × ℕ} :
    (first >>= second) left = some result ↔
      ∃ value left', first left = some (value, left') ∧ second value left' = some result := by
  show (first left).bind _ = _ ↔ _
  rw [Option.bind_eq_some_iff]
  constructor
  · intro h
    obtain ⟨⟨value, left'⟩, hfirst, hsecond⟩ := h
    exact ⟨value, left', hfirst, hsecond⟩
  · intro h
    obtain ⟨value, left', hfirst, hsecond⟩ := h
    exact ⟨(value, left'), hfirst, hsecond⟩

theorem decoder_pure_eq_some_iff {value : α} {left : ℕ} {result : α × ℕ} :
    (pure value : Decoder α) left = some result ↔ (value, left) = result := by
  show some (value, left) = some result ↔ _
  rw [Option.some.injEq]

/-- Every item of a list that is decoded comes from a node. -/
theorem decoder_mapM_of_eq_some {P : β → Prop} {decode : α → Decoder β}
    (each : ∀ node left value left', decode node left = some (value, left') → P value)
    {nodes : List α} {left left' : ℕ} {values : List β}
    (read : nodes.mapM decode left = some (values, left')) : ∀ value ∈ values, P value := by
  induction nodes generalizing left left' values with
  | nil =>
    rw [List.mapM_nil, decoder_pure_eq_some_iff, Prod.mk.injEq] at read
    obtain ⟨rfl, -⟩ := read
    simp
  | cons node nodes ih =>
    rw [List.mapM_cons, decoder_bind_eq_some_iff] at read
    obtain ⟨value, middle, hvalue, hread⟩ := read
    obtain ⟨rest, last, hrest, hdone⟩ := decoder_bind_eq_some_iff.1 hread
    rw [decoder_pure_eq_some_iff, Prod.mk.injEq] at hdone
    obtain ⟨rfl, -⟩ := hdone
    exact List.forall_mem_cons.2 ⟨each node left value middle hvalue, ih hrest⟩

/-- A float is read as a number, or as null if it is not finite. -/
theorem canonical_cellOfFloat (x : Binary64) : (cellOfFloat x).Canonical := by
  unfold cellOfFloat
  split
  · exact .number _
  · exact .null

/-- A scalar without quotes is read as a canonical cell, of whatever kind. -/
theorem canonical_of_plainCell? {text : String} {cell : Cell} (read : plainCell? text = some cell) :
    cell.Canonical := by
  unfold plainCell? at read
  simp only at read
  split at read
  · obtain rfl := Option.some.inj read
    exact .null
  · split at read
    · obtain rfl := Option.some.inj read
      exact .bool _
    · split at read
      · obtain ⟨number, -, rfl⟩ := Option.map_eq_some_iff.1 read
        exact .number number
      · split at read
        · obtain rfl := Option.some.inj read
          exact canonical_cellOfFloat _
        · obtain rfl := Option.some.inj read
          exact .text text

/-- A scalar is read as a canonical cell, whatever its tag and its quotes. -/
theorem canonical_of_scalarCell? {tag : Option String} {text : String} {plain : Bool} {cell : Cell}
    (read : scalarCell? tag text plain = some cell) : cell.Canonical := by
  unfold scalarCell? at read
  split at read
  · split at read
    · exact canonical_of_plainCell? read
    · obtain rfl := Option.some.inj read
      exact .text text
  · split_ifs at read
    · obtain ⟨value, -, rfl⟩ := Option.map_eq_some_iff.1 read
      exact .bool value
    · obtain ⟨number, -, rfl⟩ := Option.map_eq_some_iff.1 read
      exact .number number
    · obtain ⟨x, -, rfl⟩ := Option.map_eq_some_iff.1 read
      exact canonical_cellOfFloat x
    · obtain rfl := Option.some.inj read
      exact .null
    · obtain rfl := Option.some.inj read
      exact .text text

theorem canonical_of_scalar {tag : Option String} {text : String} {plain : Bool} {left left' : ℕ}
    {cell : Cell} (read : scalar tag text plain left = some (cell, left')) : cell.Canonical := by
  unfold scalar at read
  cases hvalue : scalarCell? tag text plain with
  | none =>
    rw [hvalue] at read
    contradiction
  | some value =>
    rw [hvalue] at read
    obtain ⟨rfl, -⟩ := Prod.mk.inj (decoder_pure_eq_some_iff.1 read)
    exact canonical_of_scalarCell? hvalue

/-- Every cell that is decoded is canonical. -/
theorem canonical_of_cell {document : Document} {room : ℕ} {node : Node} {left left' : ℕ}
    {cell : Cell} (read : Yaml.cell document room node left = some (cell, left')) :
    cell.Canonical := by
  induction room generalizing node left left' cell with
  | zero =>
    rw [Yaml.cell] at read
    obtain ⟨target, middle, -, hread⟩ := decoder_bind_eq_some_iff.1 read
    cases target with
    | scalar tag text plain => exact canonical_of_scalar hread
    | _ => contradiction
  | succ room ih =>
    rw [Yaml.cell] at read
    obtain ⟨target, middle, -, hread⟩ := decoder_bind_eq_some_iff.1 read
    -- the node itself or, for an alias, the node that it stands for
    cases target with
    | scalar tag text plain => exact canonical_of_scalar hread
    | «alias» name => contradiction
    | sequence tag items =>
      simp only at hread
      split at hread
      · contradiction
      · obtain ⟨cells, last, hcells, hdone⟩ := decoder_bind_eq_some_iff.1 hread
        obtain ⟨rfl, -⟩ := Prod.mk.inj (decoder_pure_eq_some_iff.1 hdone)
        exact .list (decoder_mapM_of_eq_some (fun _ _ _ _ hitem => ih hitem) hcells)
    | mapping tag entries =>
      simp only at hread
      split at hread
      · contradiction
      · obtain ⟨members, last, hmembers, hdone⟩ := decoder_bind_eq_some_iff.1 hread
        obtain ⟨rfl, -⟩ := Prod.mk.inj (decoder_pure_eq_some_iff.1 hdone)
        refine Cell.canonical_recordOf (decoder_mapM_of_eq_some ?_ hmembers)
        intro entry before member after hmember
        obtain ⟨name, between, -, hrest⟩ := decoder_bind_eq_some_iff.1 hmember
        obtain ⟨value, later, hvalue, hpair⟩ := decoder_bind_eq_some_iff.1 hrest
        obtain ⟨rfl, -⟩ := Prod.mk.inj (decoder_pure_eq_some_iff.1 hpair)
        exact ih hvalue

/-- What holds of every decoded item holds of a decoded list. -/
theorem of_list {P : α → Prop} {document : Document} {decode : Node → Decoder α}
    (each : ∀ node left value left', decode node left = some (value, left') → P value)
    {node : Node} {left left' : ℕ} {values : List α}
    (read : Yaml.list document decode node left = some (values, left')) :
    ∀ value ∈ values, P value := by
  obtain ⟨nodes, middle, -, hread⟩ := decoder_bind_eq_some_iff.1 read
  exact decoder_mapM_of_eq_some each hread

/-- What holds of every decoded value holds of a decoded map. -/
theorem every_of_map {P : α → Prop} {document : Document} {decode : Node → Decoder α}
    (each : ∀ node left value left', decode node left = some (value, left') → P value)
    {node : Node} {left left' : ℕ} {values : OrderedMap α}
    (read : Yaml.map document decode node left = some (values, left')) : values.Every P := by
  obtain ⟨nodes, middle, -, hread⟩ := decoder_bind_eq_some_iff.1 read
  obtain ⟨entries, last, hentries, hdone⟩ := decoder_bind_eq_some_iff.1 hread
  obtain ⟨rfl, -⟩ := Prod.mk.inj (decoder_pure_eq_some_iff.1 hdone)
  refine OrderedMap.every_ofList (decoder_mapM_of_eq_some (P := fun entry => P entry.2) ?_ hentries)
  intro entry before member after hmember
  obtain ⟨name, between, -, hrest⟩ := decoder_bind_eq_some_iff.1 hmember
  obtain ⟨value, later, hvalue, hpair⟩ := decoder_bind_eq_some_iff.1 hrest
  obtain ⟨rfl, -⟩ := Prod.mk.inj (decoder_pure_eq_some_iff.1 hpair)
  exact each _ _ value _ hvalue

end Yaml

/-- A workbook that is read from YAML has canonical cells. -/
theorem Workbook.canonical_ofYamlText {text : String} {workbook : Workbook}
    (read : ofYamlText text = .ok workbook) : workbook.EveryCell Cell.Canonical := by
  unfold ofYamlText at read
  split at read
  · next workbook' hread =>
    obtain rfl := Except.ok.inj read
    obtain ⟨document, -, hrun⟩ := Option.bind_eq_some_iff.1 hread
    obtain ⟨⟨decoded, left⟩, hdecoded, rfl⟩ := Option.map_eq_some_iff.1 hrun
    unfold ofNode at hdecoded
    rw [map_eq_pure_bind] at hdecoded
    obtain ⟨sheets, left', hsheets, hdone⟩ := Yaml.decoder_bind_eq_some_iff.1 hdecoded
    obtain ⟨rfl, -⟩ := Prod.mk.inj (Yaml.decoder_pure_eq_some_iff.1 hdone)
    refine everyCell_ofMap (Yaml.every_of_map ?_ hsheets)
    exact fun _ _ _ _ hrows => Yaml.of_list
      (fun _ _ _ _ hrow => Yaml.every_of_map (fun _ _ _ _ => Yaml.canonical_of_cell) hrow) hrows
  · contradiction

/-! ## Spreadsheets -/

/-- A cell of a spreadsheet is canonical, as it is never a list or a record. -/
theorem GridCell.canonical_of_cell? {cell : GridCell} {value : Cell}
    (fills : cell.cell? = some value) : value.Canonical := by
  unfold GridCell.cell? at fills
  split at fills
  · contradiction
  · obtain ⟨text, -, rfl⟩ := Option.map_eq_some_iff.1 fills
    exact .text text
  · obtain ⟨number, -, rfl⟩ := Option.map_eq_some_iff.1 fills
    exact .number number
  · obtain rfl := Option.some.inj fills
    exact .bool _
  · contradiction
  · obtain ⟨number, -, rfl⟩ := Option.map_eq_some_iff.1 fills
    exact .number number
  · obtain rfl := Option.some.inj fills
    exact .text _

theorem Grid.canonical_row (header cells : List GridCell) :
    Row.EveryCell Cell.Canonical (row header cells) := by
  refine OrderedMap.every_ofList fun entry hentry => ?_
  obtain ⟨⟨column, cell⟩, -, hfills⟩ := List.mem_filterMap.1 hentry
  obtain ⟨value, hvalue, rfl⟩ := Option.map_eq_some_iff.1 hfills
  exact GridCell.canonical_of_cell? hvalue

/-- A workbook that is read from a spreadsheet has canonical cells. -/
theorem Workbook.canonical_ofGrids (grids : List Grid) :
    (ofGrids grids).EveryCell Cell.Canonical := by
  intro sheet hsheet row hrow
  obtain ⟨grid, -, rfl⟩ := List.mem_map.1 hsheet
  unfold Grid.sheet Grid.dataRows at hrow
  split at hrow
  · simp at hrow
  · next header rows _ =>
    obtain ⟨cells, -, rfl⟩ := List.mem_map.1 (List.mem_filter.1 hrow).1
    exact Grid.canonical_row header cells

end SheetSchema
