import SheetSchema.Extraction
import SheetSchema.Proofs.OrderedMap

/-!
# Sections of a sheet

A sheet falls into sections, each from a row that opens a model down to the next row that opens one.
A model is declared by its last section. What one more row does to the last section of a model is
told by that row alone: it opens the section, goes into it, or passes it by.
-/

namespace SheetSchema

/-! ## Blank rows -/

namespace Row

variable {row : Row}

/-- A blank cell has no text. -/
theorem text?_eq_none_of_isBlank {cell : Cell} (blank : cell.isBlank = true) : cell.text? = none := by
  cases cell with
  | null => rfl
  | text value =>
    have hempty : Text.trim value = "" := by simpa [Cell.isBlank] using blank
    exact if_pos hempty
  | bool value => simp [Cell.isBlank] at blank
  | number value => simp [Cell.isBlank] at blank
  | list items => simp [Cell.isBlank] at blank
  | record members => simp [Cell.isBlank] at blank

/-- A blank row has no text in any column. -/
theorem bind_text?_of_isBlank (blank : Row.isBlank row = true) (column : String) :
    (row.get? column).bind Cell.text? = none := by
  cases hcell : row.get? column with
  | none => rfl
  | some cell =>
    have hmem : cell ∈ row.values :=
      List.mem_map.2 ⟨(column, cell), OrderedMap.mem_entries_iff.2 hcell, rfl⟩
    exact text?_eq_none_of_isBlank (List.all_eq_true.1 blank cell hmem)

/-- A blank row opens no model. -/
theorem model?_of_isBlank (blank : Row.isBlank row = true) : Row.model? row = none :=
  bind_text?_of_isBlank blank Names.modelColumn

/-- A blank row declares no field. -/
theorem field?_of_isBlank (blank : Row.isBlank row = true) : Row.field? row = none :=
  bind_text?_of_isBlank blank Names.fieldColumn

end Row

namespace Sheet

variable {sheet : String} {rows : List Row}

/-! ## Sections -/

/-- Models that rows open, in order. -/
def opened (rows : List Row) : List String := rows.filterMap Row.model?

/-- The last section of a model: a row that opens it and the rows below it up to the next row that
opens a model. No row after the section opens the model again. -/
structure LastSection (rows : List Row) (model : String) (opening : Row)
    (below after : List Row) : Prop where
  split : ∃ before, rows = before ++ opening :: (below ++ after)
  opens : Row.model? opening = some model
  own : ∀ row ∈ below, Row.model? row = none
  next : ∀ row, after.head? = some row → (Row.model? row).isSome = true
  last : ∀ row ∈ after, Row.model? row ≠ some model

/-- The fields that the rows of a section declare: each named after its field cell, in the order in
which the names first come. -/
structure Declared (rows : List Row) (fields : RawModel) : Prop where
  keys : fields.keys = (rows.filterMap Row.field?).eraseDups
  /-- Of several rows for one field the last counts. -/
  cells : ∀ field, (fields.get? field).map OrderedMap.entries =
    (rows.filter fun row => Row.field? row = some field).getLast?.map fun row =>
      row.entries.filter fun entry => entry.1 != "Model" && entry.1 != "Field"

/-- Fields that rows declare, first to last. -/
def fieldsOf (rows : List Row) : RawModel :=
  .ofList (rows.filterMap fun row => (Row.field? row).map fun field => (field, Row.details row))

/-- A row that names a field writes its details there. -/
theorem fieldsOf_append_of_field {row : Row} {field : String}
    (names : Row.field? row = some field) :
    fieldsOf (rows ++ [row]) = (fieldsOf rows).insert field (Row.details row) := by
  unfold fieldsOf OrderedMap.ofList
  rw [List.filterMap_append, List.foldl_append, List.filterMap_cons, names]
  rfl

/-- A row that names none adds nothing. -/
theorem fieldsOf_append_of_none {row : Row} (names : Row.field? row = none) :
    fieldsOf (rows ++ [row]) = fieldsOf rows := by
  unfold fieldsOf
  rw [List.filterMap_append, List.filterMap_cons, names, Option.map_none, List.filterMap_nil,
    List.append_nil]

/-- Fields stand where their names first came. -/
theorem keys_fieldsOf (rows : List Row) :
    (fieldsOf rows).keys = (rows.filterMap Row.field?).eraseDups := by
  unfold fieldsOf
  rw [OrderedMap.keys_ofList, List.map_filterMap]
  congr 1
  refine List.filterMap_congr fun row _ => ?_
  cases Row.field? row <;> rfl

/-- Of several rows for a field the last one counts. -/
theorem get?_fieldsOf (rows : List Row) (field : String) :
    (fieldsOf rows).get? field =
      (rows.filter fun row => Row.field? row = some field).getLast?.map Row.details := by
  rw [fieldsOf, OrderedMap.get?_ofList_eq_getLast?, List.filterMap_filterMap, ← List.getLast?_map,
    ← List.filterMap_eq_map, List.filterMap_filter]
  refine congrArg List.getLast? (List.filterMap_congr fun row _ => ?_)
  cases hfield : Row.field? row with
  | none => simp
  | some name => by_cases h : name = field <;> simp [h]

/-- What the rows of a section are written into is what they declare. -/
theorem declared_fieldsOf (rows : List Row) : Declared rows (fieldsOf rows) where
  keys := keys_fieldsOf rows
  cells field := by
    rw [get?_fieldsOf, Option.map_map]
    rfl

/-! ## One more row -/

/-- Models are opened row by row. -/
theorem opened_append (rows : List Row) (row : Row) :
    opened (rows ++ [row]) = opened rows ++ (Row.model? row).toList := by
  unfold opened
  rw [List.filterMap_append, List.filterMap_cons, List.filterMap_nil]
  cases Row.model? row <;> rfl

namespace LastSection

variable {model : String} {opening row : Row} {below after : List Row}

/-- The last section of a model opens it between what is opened before and after. -/
theorem opened_eq (found : LastSection rows model opening below after) :
    ∃ before, opened rows = opened before ++ model :: opened after := by
  obtain ⟨before, rfl⟩ := found.split
  have hbelow : below.filterMap Row.model? = [] := List.filterMap_eq_nil_iff.2 found.own
  refine ⟨before, ?_⟩
  unfold opened
  rw [List.filterMap_append, List.filterMap_cons, found.opens, List.filterMap_append, hbelow]
  rfl

/-- Behind the last section of a model none opens it again. -/
theorem notMem_opened_after (found : LastSection rows model opening below after) :
    model ∉ opened after := by
  intro hmem
  obtain ⟨row, hrow, hopens⟩ := List.mem_filterMap.1 hmem
  exact found.last row hrow hopens

/-- A model is open as long as nothing follows its last section. -/
theorem after_eq_nil_iff (found : LastSection rows model opening below after) :
    after = [] ↔ (opened rows).getLast? = some model := by
  obtain ⟨before, hopened⟩ := found.opened_eq
  rw [hopened, List.getLast?_append_of_ne_nil _ (List.cons_ne_nil _ _), List.getLast?_cons]
  constructor
  · intro hnone
    rw [hnone]
    rfl
  · intro hlast
    cases hafter : after with
    | nil => rfl
    | cons first rest =>
      -- the row after the section opens a model, and none from there on opens this one
      obtain ⟨other, hother⟩ := Option.isSome_iff_exists.1 (found.next first (by rw [hafter]; rfl))
      have hne : opened after ≠ [] := by
        rw [hafter, opened, List.filterMap_cons, hother]
        exact List.cons_ne_nil _ _
      rw [List.getLast?_eq_getLast_of_ne_nil hne, Option.getD_some, Option.some.injEq] at hlast
      exact absurd (hlast ▸ List.getLast_mem hne) found.notMem_opened_after

/-- A row that opens a model opens its last section. -/
theorem opening_row (opens : Row.model? row = some model) :
    LastSection (rows ++ [row]) model row [] [] where
  split := ⟨rows, rfl⟩
  opens := opens
  own := by simp
  next := by simp
  last := by simp

/-- A row that opens no model goes to the section that is open. -/
theorem extend (found : LastSection rows model opening below [])
    (unopened : Row.model? row = none) :
    LastSection (rows ++ [row]) model opening (below ++ [row]) [] where
  split := by
    obtain ⟨before, rfl⟩ := found.split
    exact ⟨before, by simp⟩
  opens := found.opens
  own other hother := by
    rcases List.mem_append.1 hother with hmem | hmem
    · exact found.own other hmem
    · rw [List.mem_singleton.1 hmem]
      exact unopened
  next := by simp
  last := by simp

/-- A row that another section comes before, or that opens another one itself, does not belong to a
section. -/
theorem pass (found : LastSection rows model opening below after)
    (closed : after = [] → (Row.model? row).isSome = true)
    (other : Row.model? row ≠ some model) :
    LastSection (rows ++ [row]) model opening below (after ++ [row]) where
  split := by
    obtain ⟨before, rfl⟩ := found.split
    exact ⟨before, by simp⟩
  opens := found.opens
  own := found.own
  next first hfirst := by
    cases after with
    | nil =>
      simp only [List.nil_append, List.head?_cons, Option.some.injEq] at hfirst
      exact hfirst ▸ closed rfl
    | cons head rest => exact found.next first hfirst
  last first hfirst := by
    rcases List.mem_append.1 hfirst with hmem | hmem
    · exact found.last first hmem
    · rw [List.mem_singleton.1 hmem]
      exact other

end LastSection

/-- A row of the last section of a model stands where the model is open. -/
theorem LastSection.open_at {model : String} {opening row : Row} {below after : List Row}
    (found : LastSection rows model opening below after) (member : row ∈ opening :: below) :
    ∃ above rest, rows = above ++ row :: rest ∧ (opened (above ++ [row])).getLast? = some model := by
  obtain ⟨before, rfl⟩ := found.split
  rcases List.mem_cons.1 member with rfl | hbelow
  · refine ⟨before, below ++ after, rfl, ?_⟩
    rw [opened_append, found.opens]
    simp
  · obtain ⟨front, back, rfl⟩ := List.append_of_mem hbelow
    refine ⟨before ++ opening :: front, back ++ after, by simp, ?_⟩
    -- between the opening row and this one no other model is opened
    have hfront : opened (front ++ [row]) = [] :=
      List.filterMap_eq_nil_iff.2 fun other hother => found.own other (by
        rcases List.mem_append.1 hother with hmem | hmem
        · exact List.mem_append_left _ hmem
        · rw [List.mem_singleton.1 hmem]
          simp)
    have hopened : opened (before ++ opening :: front ++ [row]) = opened before ++ [model] := by
      rw [List.append_assoc, List.cons_append]
      unfold opened at hfront ⊢
      rw [List.filterMap_append, List.filterMap_cons, found.opens, hfront]
    rw [hopened, List.getLast?_concat]

end Sheet

end SheetSchema
