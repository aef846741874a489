import SheetSchema.Permissions
import SheetSchema.Proofs.OrderedMap

/-!
# Markers of permissions

A column is a marker if it is named after an action and holds a text that names a permission, where
neither case nor the blanks around the text count. Moving the permissions of a field removes its
markers and nothing else, and gives every action its last marker.
-/

namespace SheetSchema

/-! ## Names in any case -/

/-- A search for the only item that passes a test. -/
theorem find?_eq_some_iff_of_unique {α : Type} {test : α → Bool} {items : List α}
    (unique : ∀ first second, test first = true → test second = true → first = second)
    {item : α} : items.find? test = some item ↔ item ∈ items ∧ test item = true := by
  constructor
  · intro hfound
    exact ⟨List.mem_of_find?_eq_some hfound, List.find?_some hfound⟩
  · intro h
    obtain ⟨hmem, htest⟩ := h
    cases hfound : items.find? test with
    | none => exact absurd htest (List.find?_eq_none.1 hfound item hmem)
    | some other => rw [unique other item (List.find?_some hfound) htest]

/-- A name in lower case is compared with the text in lower case. -/
theorem Text.sameIgnoringCase_iff {text name : String} (lower : name.toLower = name) :
    Text.sameIgnoringCase text name = true ↔ text.toLower = name := by
  rw [Text.sameIgnoringCase, beq_iff_eq, lower]

/-- Names in lower case, which tell the named apart. -/
structure LowerNames {α : Type} (name : α → String) : Prop where
  lower : ∀ item, (name item).toLower = name item
  injective : ∀ {first second : α}, name first = name second → first = second

namespace LowerNames

variable {α : Type} {name : α → String} {text : String}

/-- No text names two items, whatever its case. -/
theorem eq_of_sameIgnoringCase (names : LowerNames name) {first second : α}
    (hfirst : Text.sameIgnoringCase text (name first) = true)
    (hsecond : Text.sameIgnoringCase text (name second) = true) : first = second := by
  rw [Text.sameIgnoringCase_iff (names.lower _)] at hfirst hsecond
  exact names.injective (hfirst.symm.trans hsecond)

/-- Among all items, a text finds the one that it names. -/
theorem find?_eq_some_iff (names : LowerNames name) {items : List α}
    (all : ∀ item, item ∈ items) {item : α} :
    (items.find? fun item => Text.sameIgnoringCase text (name item)) = some item ↔
      Text.sameIgnoringCase text (name item) = true := by
  rw [find?_eq_some_iff_of_unique fun _ _ => names.eq_of_sameIgnoringCase, and_iff_right (all item)]

end LowerNames

theorem Action.lowerNames : LowerNames Action.name where
  lower action := by cases action <;> decide +kernel
  injective {first second} := by cases first <;> cases second <;> decide

theorem Permission.lowerNames : LowerNames Permission.name where
  lower permission := by cases permission <;> decide +kernel
  injective {first second} := by cases first <;> cases second <;> decide

theorem Action.mem_all (action : Action) : action ∈ Action.all := by
  cases action <;> decide

theorem Permission.mem_both (permission : Permission) :
    permission ∈ [Permission.required, Permission.optional] := by
  cases permission <;> decide

/-- A column names an action in any case. -/
theorem Action.ofColumn?_eq_some_iff {column : String} {action : Action} :
    Action.ofColumn? column = some action ↔
      Text.sameIgnoringCase column action.name = true :=
  Action.lowerNames.find?_eq_some_iff Action.mem_all

/-- A text names a permission in any case. -/
theorem Permission.ofText?_eq_some_iff {text : String} {permission : Permission} :
    Permission.ofText? text = some permission ↔
      Text.sameIgnoringCase text permission.name = true :=
  Permission.lowerNames.find?_eq_some_iff Permission.mem_both

/-! ## Markers -/

/-- Whether a column is a marker of a permission for an action. -/
def isMarker (action : Action) (permission : Permission) (column : String) (cell : Cell) : Bool :=
  Text.sameIgnoringCase column action.name &&
    match cell with
    | .text text => Text.sameIgnoringCase (Text.trim text) permission.name
    | _ => false

/-- The permission for an action of which a column is a marker. -/
def marked? (action : Action) (column : String) (cell : Cell) : Option Permission :=
  [Permission.required, .optional].find? fun permission => isMarker action permission column cell

/-- Whether a column is a marker for some action. -/
def isMarked (column : String) (cell : Cell) : Bool :=
  Action.all.any fun action => (marked? action column cell).isSome

/-- Markers of an action in column order. -/
def Row.markers (row : Row) (action : Action) : List Permission :=
  row.entries.filterMap fun (column, cell) => marked? action column cell

/-- A cell marks the permission that its column and its text name. -/
theorem permission?_eq_some_iff {column : String} {cell : Cell} {action : Action}
    {permission : Permission} :
    permission? column cell = some (action, permission) ↔
      isMarker action permission column cell = true := by
  unfold permission? isMarker
  cases cell with
  | text text =>
    -- only a text can name a permission
    rw [Bool.and_eq_true, ← Action.ofColumn?_eq_some_iff, ← Permission.ofText?_eq_some_iff]
    cases Action.ofColumn? column <;> simp [and_comm]
  | null => simp
  | bool value => simp
  | number value => simp
  | list items => simp
  | record members => simp

/-- What a cell marks for one action is decided by the same test. -/
theorem marked?_eq_some_iff {action : Action} {column : String} {cell : Cell}
    {permission : Permission} :
    marked? action column cell = some permission ↔
      isMarker action permission column cell = true := by
  rw [marked?, find?_eq_some_iff_of_unique]
  · simp only [Permission.mem_both, true_and]
  · intro first second hfirst hsecond
    have hpair := (permission?_eq_some_iff.2 hfirst).symm.trans (permission?_eq_some_iff.2 hsecond)
    simp only [Option.some.injEq, Prod.mk.injEq, true_and] at hpair
    exact hpair

/-- A column marks a permission for one action only. -/
theorem marked?_eq_bind (action : Action) (column : String) (cell : Cell) :
    marked? action column cell =
      (permission? column cell).bind fun marker =>
        if marker.1 = action then some marker.2 else none := by
  apply Option.ext
  intro permission
  rw [marked?_eq_some_iff, ← permission?_eq_some_iff, Option.bind_eq_some_iff]
  constructor
  · intro hmarks
    exact ⟨_, hmarks, if_pos rfl⟩
  · intro h
    obtain ⟨⟨action', permission'⟩, hmarks, hsame⟩ := h
    by_cases haction : action' = action
    · rw [if_pos haction, Option.some.injEq] at hsame
      rw [hmarks, haction, ← hsame]
    · rw [if_neg haction] at hsame
      contradiction

/-- A cell is a marker if it marks some permission. -/
theorem isMarked_eq_isSome (column : String) (cell : Cell) :
    isMarked column cell = (permission? column cell).isSome := by
  unfold isMarked
  rw [Bool.eq_iff_iff, List.any_eq_true]
  constructor
  · intro h
    obtain ⟨action, -, hsome⟩ := h
    obtain ⟨permission, hmarked⟩ := Option.isSome_iff_exists.1 hsome
    rw [permission?_eq_some_iff.2 (marked?_eq_some_iff.1 hmarked)]
    rfl
  · intro hsome
    obtain ⟨⟨action, permission⟩, hmarks⟩ := Option.isSome_iff_exists.1 hsome
    refine ⟨action, Action.mem_all action, ?_⟩
    rw [marked?_eq_some_iff.2 (permission?_eq_some_iff.1 hmarks)]
    rfl

theorem isMarked_of_some {column : String} {cell : Cell} {marker : Action × Permission}
    (marks : permission? column cell = some marker) : isMarked column cell = true := by
  rw [isMarked_eq_isSome, marks]
  rfl

theorem isMarked_of_none {column : String} {cell : Cell} (unmarked : permission? column cell = none) :
    isMarked column cell = false := by
  rw [isMarked_eq_isSome, unmarked]
  rfl

/-- Only columns named after an action are markers. -/
theorem marked?_eq_none {action : Action} {column : String} (cell : Cell)
    (named : Text.sameIgnoringCase column action.name = false) :
    marked? action column cell = none := by
  apply Option.eq_none_iff_forall_ne_some.2
  intro permission hmarked
  have hmarker := marked?_eq_some_iff.1 hmarked
  unfold isMarker at hmarker
  rw [named, Bool.false_and] at hmarker
  contradiction

/-- Columns that are no markers can be left out. -/
theorem Row.markers_filter {row : Row} {keep : String → Cell → Bool} {action : Action}
    (others : ∀ entry ∈ row.entries, keep entry.1 entry.2 = false →
      marked? action entry.1 entry.2 = none) :
    Row.markers (row.filter keep) action = Row.markers row action := by
  have hentries : (row.filter keep).entries =
      row.entries.filter fun entry => keep entry.1 entry.2 := rfl
  unfold Row.markers
  rw [hentries, List.filterMap_filter]
  refine List.filterMap_congr fun entry hentry => ?_
  cases hkeep : keep entry.1 entry.2 with
  | true => rfl
  | false => exact (others entry hentry hkeep).symm

/-- A column that is no marker can be written. -/
theorem Row.markers_insert {row : Row} {column : String} {action : Action}
    (named : Text.sameIgnoringCase column action.name = false) (cell : Cell) :
    Row.markers (row.insert column cell) action = Row.markers row action := by
  unfold Row.markers
  by_cases hmem : column ∈ row.keys
  · -- the column is rewritten in its place, and neither version of it is a marker
    rw [OrderedMap.entries_insert_of_mem hmem, List.filterMap_map]
    refine List.filterMap_congr fun entry _ => ?_
    by_cases hentry : entry.1 = column
    · simp only [Function.comp_apply, if_pos hentry]
      rw [marked?_eq_none cell named, hentry, marked?_eq_none entry.2 named]
    · simp only [Function.comp_apply, if_neg hentry]
  · rw [OrderedMap.entries_insert_of_notMem hmem, List.filterMap_append]
    simp [marked?_eq_none cell named]

/-! ## Tables of permissions -/

/-- Setting an action leaves the others as they are. -/
theorem PerAction.get_put {α : Type} (table : PerAction α) (action other : Action)
    (value : Option α) :
    (table.put action value).get other = if other = action then value else table.get other := by
  cases action <;> cases other <;> rfl

/-- A table is empty unless some action has a value. -/
theorem PerAction.isEmpty_eq_false_iff {α : Type} {table : PerAction α} :
    table.isEmpty = false ↔ ∃ action, (table.get action).isSome = true := by
  rw [PerAction.isEmpty, List.all_eq_false]
  constructor
  · intro h
    obtain ⟨action, -, hsome⟩ := h
    exact ⟨action, by simpa [Option.ne_none_iff_isSome] using hsome⟩
  · intro h
    obtain ⟨action, hsome⟩ := h
    exact ⟨action, Action.mem_all action, by simpa [Option.ne_none_iff_isSome] using hsome⟩

/-- A later permission for an action replaces an earlier one. -/
theorem get_foldl_put (granted : List (Action × Permission)) (api : Permissions)
    (action : Action) :
    (granted.foldl (fun api marker => api.put marker.1 (some marker.2)) api).get action =
      (granted.filterMap fun marker =>
        if marker.1 = action then some marker.2 else none).getLast?.or (api.get action) := by
  induction granted generalizing api with
  | nil => rfl
  | cons marker rest ih =>
    rw [List.foldl_cons, ih, PerAction.get_put]
    by_cases h : marker.1 = action
    · -- the marker counts unless a later one for the same action follows
      rw [List.filterMap_cons, if_pos h, if_pos h.symm, List.getLast?_cons]
      cases (rest.filterMap fun marker =>
        if marker.1 = action then some marker.2 else none).getLast? <;> rfl
    · rw [List.filterMap_cons, if_neg h, if_neg (Ne.symm h)]

/-! ## Moving permissions -/

namespace TypedField

/-- Columns that are no markers stay. -/
theorem entries_movePermissions (field : TypedField) :
    field.movePermissions.columns.entries =
      field.columns.entries.filter fun entry => !isMarked entry.1 entry.2 := by
  have hcolumns : field.movePermissions.columns.entries =
      field.columns.entries.filter fun entry => (permission? entry.1 entry.2).isNone := rfl
  rw [hcolumns]
  refine List.filter_congr fun entry _ => ?_
  rw [isMarked_eq_isSome, Option.not_isSome]

/-- Every action has the permission of its last marker. -/
theorem api_movePermissions (field : TypedField) (action : Action) :
    field.movePermissions.api.get action =
      (Row.markers field.columns action).getLast?.or (field.api.get action) := by
  -- the markers of the action are what was granted for it, in the same order
  have hmarkers : Row.markers field.columns action =
      field.granted.filterMap fun marker =>
        if marker.1 = action then some marker.2 else none := by
    rw [granted, List.filterMap_filterMap]
    refine List.filterMap_congr fun entry _ => ?_
    exact marked?_eq_bind action entry.1 entry.2
  rw [hmarkers]
  exact get_foldl_put field.granted field.api action

end TypedField

end SheetSchema
