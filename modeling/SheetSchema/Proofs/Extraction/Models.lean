import SheetSchema.Proofs.Extraction.Sections
import SheetSchema.Proofs.Runs

/-!
# Models of a sheet

Rows are read one by one, and what has been read after some of them is told by their sections. So a
sheet declares the models of its sections, unless something is wrong with a row: its model cell is
no identifier, it stands above all sections, or it declares nothing. The first such row is the
error of the sheet.
-/

namespace SheetSchema

namespace Sheet

variable {sheet : String} {rows : List Row}

/-! ## Reading one row -/

namespace Reading

variable {reading : Reading} {number : Nat} {row : Row} {model : String}

/-- A blank row says nothing. -/
theorem step_of_blank (blank : Row.isBlank row = true) :
    reading.step sheet (number, row) = .ok reading := by
  unfold step
  exact if_pos blank

/-- A row that opens a model must call it by an identifier. -/
theorem step_of_invalid (filled : Row.isBlank row = false) (opens : Row.model? row = some model)
    (invalid : Text.isIdentifier model = false) :
    reading.step sheet (number, row) = .error (.modelNotIdentifier sheet number model) := by
  unfold step openModel
  simp only [filled, opens, invalid]
  rfl

/-- A row that opens no model declares a field of the open one. -/
theorem step_of_unopened (filled : Row.isBlank row = false) (unopened : Row.model? row = none) :
    reading.step sheet (number, row) = reading.declareField sheet number row := by
  unfold step openModel
  simp only [filled, unopened]
  rfl

/-- A row that opens a model starts its fields anew, first with the one it names, if any. -/
theorem step_of_opening (filled : Row.isBlank row = false) (opens : Row.model? row = some model)
    (identifier : Text.isIdentifier model = true) :
    reading.step sheet (number, row) =
      .ok ⟨reading.models.insert model (fieldsOf [row]), some model⟩ := by
  have hstep : reading.step sheet (number, row) =
      Reading.declareField sheet number row ⟨reading.models.insert model .empty, some model⟩ := by
    unfold step openModel
    simp only [filled, opens, identifier]
    rfl
  rw [hstep]
  unfold declareField
  cases hfield : Row.field? row with
  | none =>
    simp only [opens]
    rw [← List.nil_append [row], fieldsOf_append_of_none hfield]
    rfl
  | some field =>
    simp only
    rw [← List.nil_append [row], fieldsOf_append_of_field hfield, OrderedMap.modify,
      OrderedMap.get?_insert, if_pos rfl, OrderedMap.insert_insert]
    rfl

theorem declareField_of_current_none (current : reading.current = none) :
    reading.declareField sheet number row = .error (.rowBeforeModel sheet number) := by
  unfold declareField
  rw [current]

theorem declareField_of_nameless (current : reading.current = some model)
    (unopened : Row.model? row = none) (nameless : Row.field? row = none) :
    reading.declareField sheet number row = .error (.rowWithoutField sheet number) := by
  unfold declareField
  simp only [current, nameless, unopened]
  rfl

/-- A row in an open section writes its details under its field. -/
theorem declareField_of_field {field : String} {fields : RawModel}
    (current : reading.current = some model) (names : Row.field? row = some field)
    (found : reading.models.get? model = some fields) :
    reading.declareField sheet number row =
      .ok ⟨reading.models.insert model (fields.insert field (Row.details row)), some model⟩ := by
  unfold declareField
  simp only [current, names, OrderedMap.modify, found, Option.getD_some]

end Reading

/-! ## Reading the rows -/

/-- What has been read of a sheet after some rows. -/
structure Reads (rows : List Row) (reading : Reading) : Prop where
  current : reading.current = (opened rows).getLast?
  keys : reading.models.keys = (opened rows).eraseDups
  sections : ∀ model fields, reading.models.get? model = some fields →
    ∃ opening below after, LastSection rows model opening below after ∧
      fields = fieldsOf (opening :: below)

/-- Before the first row nothing is open and nothing is declared. -/
theorem reads_nil : Reads [] Reading.start where
  current := rfl
  keys := rfl
  sections model fields found := by simp [Reading.start] at found

/-- What is wrong with a row below some others: its model cell is no identifier, no row has opened a
model yet, or it neither opens a model nor names a field. -/
inductive RowFault (sheet : String) (above : List Row) (row : Row) : Error → Prop
  | notIdentifier {model : String} (opens : Row.model? row = some model)
      (invalid : Text.isIdentifier model = false) :
      RowFault sheet above row (.modelNotIdentifier sheet (above.length + 2) model)
  | beforeModel (filled : Row.isBlank row = false) (unopened : opened (above ++ [row]) = []) :
      RowFault sheet above row (.rowBeforeModel sheet (above.length + 2))
  | withoutField (filled : Row.isBlank row = false) (opened : opened above ≠ [])
      (unopened : Row.model? row = none) (nameless : Row.field? row = none) :
      RowFault sheet above row (.rowWithoutField sheet (above.length + 2))

namespace Reads

variable {reading next : Reading} {row : Row}

/-- No section is open exactly as long as no row has opened one. -/
theorem current_eq_none_iff (reads : Reads rows reading) :
    reading.current = none ↔ opened rows = [] := by
  rw [reads.current, List.getLast?_eq_none_iff]

/-- A row that opens no model and declares no field changes nothing. -/
theorem skip (reads : Reads rows reading) (unopened : Row.model? row = none)
    (nameless : Row.field? row = none) : Reads (rows ++ [row]) reading where
  current := by rw [opened_append, unopened, Option.toList_none, List.append_nil, reads.current]
  keys := by rw [opened_append, unopened, Option.toList_none, List.append_nil, reads.keys]
  sections model fields hfields := by
    obtain ⟨opening, below, after, hsection, rfl⟩ := reads.sections model fields hfields
    cases after with
    | nil =>
      refine ⟨opening, below ++ [row], [], hsection.extend unopened, ?_⟩
      rw [← List.cons_append, fieldsOf_append_of_none nameless]
    | cons first rest =>
      refine ⟨opening, below, first :: rest ++ [row], hsection.pass (by simp) ?_, rfl⟩
      rw [unopened]
      simp

/-- A row that opens a model starts it anew. -/
theorem reopen (reads : Reads rows reading) {model : String} (opens : Row.model? row = some model) :
    Reads (rows ++ [row]) ⟨reading.models.insert model (fieldsOf [row]), some model⟩ where
  current := by rw [opened_append, opens]; simp
  keys := by
    rw [opened_append, opens, Option.toList_some, ← OrderedSet.items_ofList,
      OrderedSet.ofList_append_singleton, OrderedSet.items_insert, OrderedSet.items_ofList,
      ← reads.keys, OrderedMap.keys_insert]
  sections other fields hfields := by
    rw [OrderedMap.get?_insert] at hfields
    split at hfields
    · next hsame =>
      rw [Option.some.injEq] at hfields
      exact ⟨row, [], [], .opening_row (hsame ▸ opens), hfields.symm⟩
    · next hother =>
      obtain ⟨opening, below, after, hsection, rfl⟩ := reads.sections other fields hfields
      refine ⟨opening, below, after ++ [row], hsection.pass ?_ ?_, rfl⟩
      · intro
        rw [opens]
        rfl
      · rw [opens]
        simpa using Ne.symm hother

/-- A row that declares a field of the open model adds it. -/
theorem declare (reads : Reads rows reading) {model field : String} {fields : RawModel}
    (unopened : Row.model? row = none) (names : Row.field? row = some field)
    (current : reading.current = some model) (found : reading.models.get? model = some fields) :
    Reads (rows ++ [row])
      ⟨reading.models.insert model (fields.insert field (Row.details row)), some model⟩ where
  current := by
    rw [opened_append, unopened, Option.toList_none, List.append_nil, ← reads.current, current]
  keys := by
    rw [opened_append, unopened, Option.toList_none, List.append_nil, ← reads.keys,
      OrderedMap.keys_insert, if_pos (OrderedMap.mem_keys_of_get? found)]
  sections other fields' hfields := by
    rw [OrderedMap.get?_insert] at hfields
    split at hfields
    · next hsame =>
      rw [Option.some.injEq] at hfields
      obtain ⟨opening, below, after, hsection, rfl⟩ := reads.sections model fields found
      -- the model is open, so nothing comes after its last section
      obtain rfl := hsection.after_eq_nil_iff.2 (reads.current ▸ current)
      refine ⟨opening, below ++ [row], [], hsame ▸ hsection.extend unopened, ?_⟩
      rw [← List.cons_append, fieldsOf_append_of_field names, hfields]
    · next hother =>
      obtain ⟨opening, below, after, hsection, rfl⟩ := reads.sections other fields' hfields
      refine ⟨opening, below, after ++ [row], hsection.pass ?_ ?_, rfl⟩
      · intro hnone
        have hopen := hsection.after_eq_nil_iff.1 hnone
        rw [← reads.current, current, Option.some.injEq] at hopen
        exact absurd hopen.symm hother
      · rw [unopened]
        simp

/-- Reading one more row either goes on or meets what is wrong with the row. -/
theorem step (reads : Reads rows reading) (sheet : String) (row : Row) :
    (∃ next, reading.step sheet (rows.length + 2, row) = .ok next ∧ Reads (rows ++ [row]) next ∧
        ∀ error, ¬ RowFault sheet rows row error) ∨
      ∃ error, reading.step sheet (rows.length + 2, row) = .error error ∧
        RowFault sheet rows row error := by
  cases hblank : Row.isBlank row with
  | true =>
    have hmodel := Row.model?_of_isBlank hblank
    have hfield := Row.field?_of_isBlank hblank
    refine Or.inl ⟨reading, Reading.step_of_blank hblank, reads.skip hmodel hfield, ?_⟩
    intro error hfault
    cases hfault <;> simp_all
  | false =>
    cases hmodel : Row.model? row with
    | some model =>
      cases hidentifier : Text.isIdentifier model with
      | true =>
        refine Or.inl ⟨_, Reading.step_of_opening hblank hmodel hidentifier, reads.reopen hmodel, ?_⟩
        intro error hfault
        cases hfault <;> simp_all [opened_append]
      | false =>
        exact Or.inr ⟨_, Reading.step_of_invalid hblank hmodel hidentifier,
          .notIdentifier hmodel hidentifier⟩
    | none =>
      rw [Reading.step_of_unopened hblank hmodel]
      cases hcurrent : reading.current with
      | none =>
        have hopened := reads.current_eq_none_iff.1 hcurrent
        refine Or.inr ⟨_, Reading.declareField_of_current_none hcurrent, .beforeModel hblank ?_⟩
        rw [opened_append, hopened, hmodel]
        rfl
      | some model =>
        have hopened : opened rows ≠ [] := fun hnone => by
          rw [reads.current_eq_none_iff.2 hnone] at hcurrent
          contradiction
        cases hfield : Row.field? row with
        | none =>
          exact Or.inr ⟨_, Reading.declareField_of_nameless hcurrent hmodel hfield,
            .withoutField hblank hopened hmodel hfield⟩
        | some field =>
          have hmem : model ∈ reading.models.keys := by
            rw [reads.keys, ← OrderedSet.items_ofList, OrderedSet.mem_ofList]
            exact List.mem_of_getLast? (reads.current ▸ hcurrent)
          obtain ⟨fields, hfields⟩ := OrderedMap.mem_keys_iff.1 hmem
          refine Or.inl ⟨_, Reading.declareField_of_field hcurrent hfield hfields,
            reads.declare hmodel hfield hcurrent hfields, ?_⟩
          intro error hfault
          cases hfault <;> simp_all [opened_append]

end Reads

/-! ## Reading all rows -/

/-- There is nothing wrong with any of the rows. -/
def Clear (sheet : String) (rows : List Row) : Prop :=
  ∀ above row below, rows = above ++ row :: below → ∀ error, ¬ RowFault sheet above row error

/-- What is wrong with the first row with which something is. -/
def FirstFault (sheet : String) (rows : List Row) (error : Error) : Prop :=
  ∃ above row below, rows = above ++ row :: below ∧ Clear sheet above ∧
    RowFault sheet above row error

theorem clear_nil : Clear sheet [] := by
  intro above row below hsplit
  simp at hsplit

/-- Rows stay clear under one more row without a fault. -/
theorem Clear.append {row : Row} (clear : Clear sheet rows)
    (sound : ∀ error, ¬ RowFault sheet rows row error) : Clear sheet (rows ++ [row]) := by
  intro above other below hsplit
  rcases List.eq_nil_or_concat below with rfl | ⟨below, last, rfl⟩
  · obtain ⟨rfl, hrow⟩ := List.append_inj' hsplit rfl
    rw [List.singleton_inj] at hrow
    exact hrow ▸ sound
  · rw [List.concat_eq_append, ← List.cons_append, ← List.append_assoc] at hsplit
    exact clear above other below (List.append_inj' hsplit rfl).1

/-- Rows behind the first fault do not matter. -/
theorem FirstFault.append {error : Error} (first : FirstFault sheet rows error) (row : Row) :
    FirstFault sheet (rows ++ [row]) error := by
  obtain ⟨above, other, below, rfl, hclear, hfault⟩ := first
  exact ⟨above, other, below ++ [row], by simp, hclear, hfault⟩

/-- A row has one fault at most, as the checks on it exclude each other. -/
theorem RowFault.unique {above : List Row} {row : Row} {error error' : Error}
    (one : RowFault sheet above row error) (other : RowFault sheet above row error') :
    error = error' := by
  cases one <;> cases other <;> simp_all [opened_append]

/-- A row with a fault does not stand among clear rows. -/
theorem RowFault.length_le {above above' below below' : List Row} {row row' : Row} {error : Error}
    (fault : RowFault sheet above row error) (clear : Clear sheet above')
    (same : above ++ row :: below = above' ++ row' :: below') : above'.length ≤ above.length := by
  rcases List.append_eq_append_iff.1 same with ⟨between, habove, hrest⟩ | ⟨between, habove, -⟩
  · cases between with
    | nil => simp [habove]
    | cons first rest =>
      obtain ⟨rfl, -⟩ := List.cons.inj hrest
      exact absurd fault (clear above row rest habove error)
  · simp [habove]

/-- The rows above a first fault are clear, so no other fault comes first. -/
theorem FirstFault.unique {error error' : Error} (one : FirstFault sheet rows error)
    (other : FirstFault sheet rows error') : error = error' := by
  obtain ⟨above, row, below, rfl, hclear, hfault⟩ := one
  obtain ⟨above', row', below', hsame, hclear', hfault'⟩ := other
  have hlength : above.length = above'.length :=
    Nat.le_antisymm (hfault'.length_le hclear hsame.symm) (hfault.length_le hclear' hsame)
  obtain ⟨rfl, hrest⟩ := List.append_inj hsame hlength
  obtain ⟨rfl, -⟩ := List.cons.inj hrest
  exact hfault.unique hfault'

namespace Reading

/-- What is read after some rows below the header. -/
def after (sheet : String) (rows : List Row) : Except Error Reading :=
  ((rows.zipIdx 2).map fun (row, number) => (number, row)).foldlM (step sheet) start

/-- Reading goes on with the next row, whose number counts the header too. -/
theorem after_append (sheet : String) (rows : List Row) (row : Row) :
    after sheet (rows ++ [row]) =
      after sheet rows >>= fun reading => reading.step sheet (rows.length + 2, row) := by
  unfold after
  rw [List.zipIdx_append, List.map_append, List.foldlM_append, Nat.add_comm]
  refine bind_congr fun reading => ?_
  simp

end Reading

/-- Reading goes to the end, and then nothing was wrong with any row, or it stops for the first row
with which something is. -/
theorem reads_or_firstFault (sheet : String) (rows : List Row) :
    (∃ reading, Reading.after sheet rows = .ok reading ∧ Reads rows reading ∧ Clear sheet rows) ∨
      ∃ error, Reading.after sheet rows = .error error ∧ FirstFault sheet rows error := by
  induction rows using List.reverseRecOn with
  | nil => exact Or.inl ⟨.start, rfl, reads_nil, clear_nil⟩
  | append_singleton rows row ih =>
    rw [Reading.after_append]
    rcases ih with ⟨reading, hafter, hreads, hclear⟩ | ⟨error, hafter, hfirst⟩
    · rw [hafter]
      rcases hreads.step sheet row with ⟨next, hstep, hnext, hsound⟩ | ⟨error, hstep, hfault⟩
      · exact Or.inl ⟨next, hstep, hnext, hclear.append hsound⟩
      · exact Or.inr ⟨error, hstep, rows, row, [], rfl, hclear, hfault⟩
    · rw [hafter]
      exact Or.inr ⟨error, rfl, hfirst.append row⟩

/-! ## Models -/

/-- The models that rows declare. -/
structure DeclaredModels (rows : List Row) (models : RawPackage) : Prop where
  /-- Models stand in the order in which they are first opened. -/
  keys : models.keys = (opened rows).eraseDups
  /-- The fields of a model are those that the rows of its last section declare. -/
  fields : ∀ model fields, models.get? model = some fields →
    ∃ opening below after, LastSection rows model opening below after ∧
      Declared (opening :: below) fields
  /-- A field comes from a row at which its model is open. -/
  attributed : ∀ model fields field cells, models.get? model = some fields →
    fields.get? field = some cells →
      ∃ above row below, rows = above ++ row :: below ∧
        (opened (above ++ [row])).getLast? = some model ∧ Row.field? row = some field ∧
        cells = Row.details row

/-- What has been read at the end is what the sections declare. -/
theorem Reads.declaredModels {reading : Reading} (reads : Reads rows reading) :
    DeclaredModels rows reading.models where
  keys := reads.keys
  fields model fields hfields := by
    obtain ⟨opening, below, after, hsection, rfl⟩ := reads.sections model fields hfields
    exact ⟨opening, below, after, hsection, declared_fieldsOf _⟩
  attributed model fields field cells hfields hcells := by
    obtain ⟨opening, below, after, hsection, rfl⟩ := reads.sections model fields hfields
    rw [get?_fieldsOf, Option.map_eq_some_iff] at hcells
    obtain ⟨row, hlast, rfl⟩ := hcells
    obtain ⟨hrow, hfield⟩ := List.mem_filter.1 (List.mem_of_getLast? hlast)
    obtain ⟨above, rest, hsplit, hopen⟩ := hsection.open_at hrow
    exact ⟨above, row, rest, hsplit, hopen, by simpa using hfield, rfl⟩

/-- Rows with a fault are not clear. -/
theorem FirstFault.not_clear {error : Error} (first : FirstFault sheet rows error) :
    ¬ Clear sheet rows := by
  obtain ⟨above, row, below, hsplit, -, hfault⟩ := first
  exact fun hclear => hclear above row below hsplit error hfault

/-- The models of a sheet without a fault. -/
theorem models_of_clear {sheet : Sheet} (clear : Clear sheet.name sheet.rows) :
    ∃ models, sheet.models = .ok models ∧ DeclaredModels sheet.rows models := by
  unfold models numberedRows
  rcases reads_or_firstFault sheet.name sheet.rows with
    ⟨reading, hafter, hreads, -⟩ | ⟨error, -, hfirst⟩
  · rw [Reading.after] at hafter
    exact ⟨reading.models, by rw [hafter]; rfl, hreads.declaredModels⟩
  · exact absurd clear hfirst.not_clear

/-- The first fault of a sheet is its error. -/
theorem models_of_firstFault {sheet : Sheet} {error : Error}
    (first : FirstFault sheet.name sheet.rows error) : sheet.models = .error error := by
  unfold models numberedRows
  rcases reads_or_firstFault sheet.name sheet.rows with
    ⟨reading, -, -, hclear⟩ | ⟨other, hafter, hother⟩
  · exact absurd hclear first.not_clear
  · rw [Reading.after] at hafter
    rw [hafter, hother.unique first]
    rfl

/-- Reading the rows of a sheet decides between the two. -/
theorem clear_or_firstFault (sheet : String) (rows : List Row) :
    Clear sheet rows ∨ ∃ error, FirstFault sheet rows error := by
  rcases reads_or_firstFault sheet rows with ⟨_, -, -, hclear⟩ | ⟨error, -, hfirst⟩
  · exact Or.inl hclear
  · exact Or.inr ⟨error, hfirst⟩

/-- A sheet is refused exactly for the first fault of its rows. -/
theorem models_eq_error_iff {sheet : Sheet} {error : Error} :
    sheet.models = .error error ↔ FirstFault sheet.name sheet.rows error := by
  constructor
  · intro hfailed
    rcases clear_or_firstFault sheet.name sheet.rows with hclear | ⟨other, hother⟩
    · obtain ⟨models, hmodels, -⟩ := models_of_clear hclear
      rw [hmodels] at hfailed
      contradiction
    · obtain rfl := Except.error.inj ((models_of_firstFault hother).symm.trans hfailed)
      exact hother
  · exact models_of_firstFault

/-- A sheet is refused exactly if something is wrong with one of its rows, and then for the first
such row. Any other sheet declares the models that its rows open, and each has the fields of its
last section. -/
theorem models_by_sections (sheet : Sheet) :
    ((∃ error, sheet.models = .error error) ↔
        ∃ above row below error, sheet.rows = above ++ row :: below ∧
          RowFault sheet.name above row error) ∧
      (∀ error, sheet.models = .error error ↔ FirstFault sheet.name sheet.rows error) ∧
      ∀ models, sheet.models = .ok models → DeclaredModels sheet.rows models := by
  refine ⟨?_, fun error => models_eq_error_iff, ?_⟩
  · rcases clear_or_firstFault sheet.name sheet.rows with hclear | ⟨error, hfirst⟩
    · constructor
      · intro h
        obtain ⟨error, hfailed⟩ := h
        exact absurd hclear (models_eq_error_iff.1 hfailed).not_clear
      · intro h
        obtain ⟨above, row, below, error, hsplit, hfault⟩ := h
        exact absurd hfault (hclear above row below hsplit error)
    · refine ⟨fun _ => ?_, fun _ => ⟨error, models_of_firstFault hfirst⟩⟩
      obtain ⟨above, row, below, hsplit, -, hfault⟩ := hfirst
      exact ⟨above, row, below, error, hsplit, hfault⟩
  · intro models hdone
    rcases clear_or_firstFault sheet.name sheet.rows with hclear | ⟨error, hfirst⟩
    · obtain ⟨models', hmodels, hdeclared⟩ := models_of_clear hclear
      obtain rfl := Except.ok.inj (hdone.symm.trans hmodels)
      exact hdeclared
    · rw [models_of_firstFault hfirst] at hdone
      contradiction

end Sheet

/-! ## A menu

Soups are opened twice, with salads in between.
-/

namespace Menu

/-- Sheet of the menu; its third row is blank, and the field of its last row is named once more. -/
def sheet : Sheet := ⟨"menu", [
  .ofList [("Model", .text "Soup"), ("Field", .text "price"), ("Type", .text "int")],
  .ofList [("Model", .text "Salad"), ("Field", .text "price")],
  .ofList [("Model", .text " "), ("Field", .null)],
  .ofList [("Field", .text "dressing"), ("Type", .text "string")],
  .ofList [("Model", .text "Soup")],
  .ofList [("Field", .text "spice"), ("Type", .text "string")],
  .ofList [("Type", .text "text"), ("Field", .text " spice ")]]⟩

/-- Soups stand before salads, with the fields that they were opened with last. -/
def models : RawPackage :=
  .ofList [("Soup", .ofList [("spice", .ofList [("Type", .text "text")])]),
    ("Salad", .ofList [("price", .empty), ("dressing", .ofList [("Type", .text "string")])])]

theorem declares_models :
    sheet.models = .ok models ∧ Sheet.DeclaredModels sheet.rows models := by
  have hmodels : sheet.models = .ok models := by rfl
  exact ⟨hmodels, (Sheet.models_by_sections sheet).2.2 models hmodels⟩

end Menu

end SheetSchema
