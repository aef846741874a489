import SheetSchema.Proofs.Permissions
import SheetSchema.Proofs.Text.Trimming
import SheetSchema.Schema.Document

/-!
# Merging permissions back

The permissions of a field can be written as columns again. Where a field had none of its own, its
columns then hold what they held before its permissions were moved, with every marker folded: its
column and its text in lower case and without blanks around them. A column that is no marker can get
in the way, if it has the very name that a marker is folded to.
-/

namespace SheetSchema

/-! ## Extending a map -/

namespace OrderedMap

variable {α : Type}

/-- The map with all entries of another one written to it. -/
def extend (map other : OrderedMap α) : OrderedMap α :=
  other.entries.foldl (fun map entry => map.insert entry.1 entry.2) map

/-- The map that is written counts first. -/
theorem get?_extend (map other : OrderedMap α) (key : String) :
    (map.extend other).get? key = (other.get? key).or (map.get? key) := by
  rw [extend, foldl_insert_get?, ← get?_ofList, ofList_entries]

end OrderedMap

/-! ## Permissions as columns -/

/-- The entries of a table are the actions that have a value. -/
theorem PerAction.mem_entries_iff {α : Type} {table : PerAction α} {action : Action} {value : α} :
    (action, value) ∈ table.entries ↔ table.get action = some value := by
  unfold PerAction.entries
  rw [List.mem_filterMap]
  constructor
  · intro h
    obtain ⟨other, -, hother⟩ := h
    obtain ⟨found, hfound, hentry⟩ := Option.map_eq_some_iff.1 hother
    obtain ⟨rfl, rfl⟩ := Prod.mk.inj hentry
    exact hfound
  · intro hfound
    exact ⟨action, Action.mem_all action, by rw [hfound]; rfl⟩

namespace Permissions

variable {api : Permissions}

/-- Permissions are written out one column an action. -/
theorem mem_columns_iff {column : String} {cell : Cell} :
    (column, cell) ∈ (api.entries.map fun (action, permission) =>
        ((action.name, .text permission.name) : String × Cell)) ↔
      ∃ action permission, api.get action = some permission ∧ column = action.name ∧
        cell = .text permission.name := by
  rw [List.mem_map]
  constructor
  · intro h
    obtain ⟨⟨action, permission⟩, hmem, hentry⟩ := h
    obtain ⟨rfl, rfl⟩ := Prod.mk.inj hentry
    exact ⟨action, permission, PerAction.mem_entries_iff.1 hmem, rfl, rfl⟩
  · intro h
    obtain ⟨action, permission, hfound, rfl, rfl⟩ := h
    exact ⟨(action, permission), PerAction.mem_entries_iff.2 hfound, rfl⟩

/-- A permission that is set has its column, under the name of the action. -/
theorem get?_toColumns_of_some {action : Action} {permission : Permission}
    (found : api.get action = some permission) :
    (toColumns api).get? action.name = some (.text permission.name) := by
  refine OrderedMap.get?_ofList_of_unique (mem_columns_iff.2 ⟨_, _, found, rfl, rfl⟩) ?_
  intro cell hcell
  obtain ⟨other, permission', hother, hname, rfl⟩ := mem_columns_iff.1 hcell
  rw [← Action.lowerNames.injective hname, found, Option.some.injEq] at hother
  rw [hother]

/-- No other column is written. -/
theorem get?_toColumns_of_none {column : String}
    (absent : ∀ action : Action, action.name = column → api.get action = none) :
    (toColumns api).get? column = none := by
  rw [OrderedMap.get?_eq_none_iff, toColumns, OrderedMap.mem_keys_ofList]
  intro hmem
  obtain ⟨⟨_, cell⟩, hentry, rfl⟩ := List.mem_map.1 hmem
  obtain ⟨action, permission, hfound, hname, -⟩ := mem_columns_iff.1 hentry
  rw [absent action hname.symm] at hfound
  contradiction

end Permissions

/-! ## Folding markers -/

/-- The text without the blanks around it, in lower case. -/
def Text.fold (text : String) : String := (Text.trim text).toLower

/-- A marker with its column and its text folded; any other column as it is. -/
def foldMarker (column : String) (cell : Cell) : String × Cell :=
  match isMarked column cell, cell with
  | true, .text text => (Text.fold column, .text (Text.fold text))
  | _, _ => (column, cell)

/-- The row with every marker folded. Of two markers that fold to one column the later counts. -/
def Row.foldMarkers (row : Row) : Row :=
  .ofList (row.entries.map fun entry => foldMarker entry.1 entry.2)

/-- A blank has no case. -/
theorem Text.toLower_of_isBlank {c : Char} (blank : Text.isBlank c = true) : c.toLower = c := by
  unfold Char.toLower
  rw [dif_neg]
  intro hupper
  rw [ge_iff_le, UInt32.le_iff_toNat_le, UInt32.le_iff_toNat_le] at hupper
  have hc : c.toNat = c.val.toNat := rfl
  have hA : 'A'.val.toNat = 65 := rfl
  have hZ : 'Z'.val.toNat = 90 := rfl
  simp only [Text.isBlank, Bool.or_eq_true, Bool.and_eq_true, decide_eq_true_eq, beq_iff_eq]
    at blank
  omega

/-- A text that is a solid one but for case is solid. -/
theorem Text.fold_of_toLower_eq {text name : String} (lower : text.toLower = name)
    (solid : name.toList.any Text.isBlank = false) : Text.fold text = name := by
  have htrim : Text.trim text = text := by
    refine Text.trim_of_not_blank fun c hc => ?_
    cases hblank : Text.isBlank c with
    | false => rfl
    | true =>
      have hlower : text.toLower.toList = text.toList.map Char.toLower := String.toList_map
      have hmem : c ∈ name.toList := by
        rw [← lower, hlower]
        exact List.mem_map.2 ⟨c, hc, Text.toLower_of_isBlank hblank⟩
      exact absurd hblank (List.any_eq_false.1 solid c hmem)
  rw [Text.fold, htrim, lower]

/-- A text marks a permission if the column in lower case and the folded text are the two names. -/
theorem permission?_text_iff {column text : String} {action : Action} {permission : Permission} :
    permission? column (.text text) = some (action, permission) ↔
      column.toLower = action.name ∧ Text.fold text = permission.name := by
  rw [permission?_eq_some_iff, isMarker, Bool.and_eq_true,
    Text.sameIgnoringCase_iff (Action.lowerNames.lower action),
    Text.sameIgnoringCase_iff (Permission.lowerNames.lower permission)]
  rfl

/-- Markers are folded to the names of what they permit. -/
theorem foldMarker_of_some {column : String} {cell : Cell} {action : Action}
    {permission : Permission} (marks : permission? column cell = some (action, permission)) :
    foldMarker column cell = (action.name, .text permission.name) := by
  have hmarker := permission?_eq_some_iff.1 marks
  unfold isMarker at hmarker
  cases cell with
  | text text =>
    obtain ⟨hcolumn, htext⟩ := permission?_text_iff.1 marks
    have hfold : Text.fold column = action.name := by
      refine Text.fold_of_toLower_eq hcolumn ?_
      cases action <;> decide
    unfold foldMarker
    rw [isMarked_of_some marks]
    simp only [hfold, htext]
  | null => simp at hmarker
  | bool value => simp at hmarker
  | number value => simp at hmarker
  | list items => simp at hmarker
  | record members => simp at hmarker

/-- A cell that marks nothing is merged back as it was. -/
theorem foldMarker_of_none {column : String} {cell : Cell}
    (unmarked : permission? column cell = none) : foldMarker column cell = (column, cell) := by
  unfold foldMarker
  rw [isMarked_of_none unmarked]

namespace Row

variable {row : Row}

/-- A column that no marker is folded to has the cell that it has without the markers. -/
theorem get?_foldMarkers_of_none {column : String}
    (absent : ∀ action : Action, action.name = column → Row.markers row action = []) :
    (Row.foldMarkers row).get? column =
      (row.filter fun column cell => !isMarked column cell).get? column := by
  have hentries : (row.filter fun column cell => !isMarked column cell).entries =
      row.entries.filter fun entry => !isMarked entry.1 entry.2 := rfl
  rw [foldMarkers, OrderedMap.get?_ofList_eq_getLast?, List.filterMap_map,
    OrderedMap.get?_eq_getLast?, hentries, List.filterMap_filter]
  refine congrArg List.getLast? (List.filterMap_congr fun entry hentry => ?_)
  cases hmarks : permission? entry.1 entry.2 with
  | none =>
    simp only [Function.comp_apply, foldMarker_of_none hmarks, isMarked_of_none hmarks,
      Bool.not_false, if_true]
  | some marker =>
    have hne : marker.1.name ≠ column := by
      intro hname
      have hnone : marked? marker.1 entry.1 entry.2 = none :=
        List.filterMap_eq_nil_iff.1 (absent marker.1 hname) entry hentry
      rw [marked?_eq_bind, hmarks, Option.bind_some, if_pos rfl] at hnone
      contradiction
    simp only [Function.comp_apply, foldMarker_of_some hmarks, if_neg hne,
      isMarked_of_some hmarks, Bool.not_true, Bool.false_eq_true, if_false]

/-- The name of an action has the last of its markers, if no other column has that name. -/
theorem get?_foldMarkers_of_named {action : Action}
    (apart : ∀ cell, row.get? action.name = some cell → isMarked action.name cell = true) :
    (Row.foldMarkers row).get? action.name =
      (Row.markers row action).getLast?.map fun permission => .text permission.name := by
  rw [foldMarkers, OrderedMap.get?_ofList_eq_getLast?, List.filterMap_map, markers,
    ← List.getLast?_map, List.map_filterMap]
  refine congrArg List.getLast? (List.filterMap_congr fun entry hentry => ?_)
  show _ = (marked? action entry.1 entry.2).map _
  rw [marked?_eq_bind]
  cases hmarks : permission? entry.1 entry.2 with
  | none =>
    have hne : entry.1 ≠ action.name := by
      intro hname
      have hcell := apart entry.2 (hname ▸ OrderedMap.mem_entries_iff.1 hentry)
      rw [← hname, isMarked_of_none hmarks] at hcell
      contradiction
    simp only [Function.comp_apply, foldMarker_of_none hmarks, if_neg hne, Option.bind_none,
      Option.map_none]
  | some marker =>
    simp only [Function.comp_apply, foldMarker_of_some hmarks, Option.bind_some]
    by_cases haction : marker.1 = action
    · rw [if_pos haction, if_pos (congrArg Action.name haction)]
      rfl
    · rw [if_neg haction, if_neg fun hname => haction (Action.lowerNames.injective hname)]
      rfl

end Row

namespace TypedField

variable {field : TypedField}

/-! ## Moving again -/

/-- Where nothing is marked there is nothing to move. -/
theorem movePermissions_of_granted_eq_nil (unmarked : field.granted = []) :
    field.movePermissions = field := by
  have hnone := List.filterMap_eq_nil_iff.1 unmarked
  have hcolumns : field.columns.filter (fun column cell => (permission? column cell).isNone) =
      field.columns := by
    refine OrderedMap.eq_of_entries (List.filter_eq_self.2 fun entry hentry => ?_)
    rw [Option.isNone_iff_eq_none]
    exact hnone entry hentry
  unfold movePermissions
  rw [hcolumns, unmarked]
  rfl

/-- Marks are moved, not copied, so moving twice is moving once. -/
theorem granted_movePermissions (field : TypedField) : field.movePermissions.granted = [] := by
  refine List.filterMap_eq_nil_iff.2 fun entry hentry => ?_
  have hkept : (permission? entry.1 entry.2).isNone = true := (List.mem_filter.1 hentry).2
  exact Option.isNone_iff_eq_none.1 hkept

/-! ## Merging back -/

/-- Whether no column is in the way of a marker: one that has exactly the name of an action for
which there is a marker is itself a marker. -/
def MarkersApart (columns : Row) : Prop :=
  ∀ action : Action, Row.markers columns action ≠ [] →
    ∀ cell, columns.get? action.name = some cell → isMarked action.name cell = true

/-- What stays a column is what marks nothing. -/
theorem columns_movePermissions (field : TypedField) :
    field.movePermissions.columns =
      field.columns.filter fun column cell => !isMarked column cell :=
  OrderedMap.eq_of_entries (entries_movePermissions field)

/-- Merging back shows what folding the marks in place would show. -/
theorem get?_mergedColumns (empty : field.api.isEmpty = true)
    (apart : MarkersApart field.columns) (column : String) :
    (field.movePermissions.columns.extend
        (Permissions.toColumns field.movePermissions.api)).get? column =
      (Row.foldMarkers field.columns).get? column := by
  rw [OrderedMap.get?_extend]
  by_cases hnamed : ∃ action : Action, action.name = column ∧ Row.markers field.columns action ≠ []
  · obtain ⟨action, rfl, hmarkers⟩ := hnamed
    obtain ⟨permission, hlast⟩ := Option.isSome_iff_exists.1 (List.getLast?_isSome.2 hmarkers)
    have hapi : field.movePermissions.api.get action = some permission := by
      rw [api_movePermissions, hlast]
      rfl
    rw [Permissions.get?_toColumns_of_some hapi,
      Row.get?_foldMarkers_of_named (apart action hmarkers), hlast]
    rfl
  · have hnone : ∀ action : Action, action.name = column → Row.markers field.columns action = [] :=
      fun action hname => by_contra fun hmarkers => hnamed ⟨action, hname, hmarkers⟩
    have hapi : ∀ action : Action, action.name = column →
        field.movePermissions.api.get action = none := by
      intro action hname
      have hfree : (field.api.get action).isNone = true :=
        List.all_eq_true.1 empty action (Action.mem_all action)
      rw [api_movePermissions, hnone action hname, Option.isNone_iff_eq_none.1 hfree]
      rfl
    rw [Permissions.get?_toColumns_of_none hapi, Row.get?_foldMarkers_of_none hnone,
      columns_movePermissions, Option.none_or]

/-- What becomes of a field whose permissions are moved. -/
structure Moved (field moved : TypedField) : Prop where
  /-- Columns that are no markers stay, in their order. -/
  columns : moved.columns.entries =
    field.columns.entries.filter fun entry => !isMarked entry.1 entry.2
  /-- An action has its last marker, or else the permission that it had. -/
  api : ∀ action, moved.api.get action =
    (Row.markers field.columns action).getLast?.or (field.api.get action)
  rest : moved = { field with columns := moved.columns, api := moved.api }

/-- Moving its permissions takes the markers of a field to their actions, and there is nothing left
to move. If the field had no permissions and no column is in the way of its markers, then its
columns with the permissions merged back are those it had, with every marker folded. -/
theorem moves_and_merges_back (field : TypedField) :
    Moved field field.movePermissions ∧
      field.movePermissions.movePermissions = field.movePermissions ∧
      (field.api.isEmpty = true → MarkersApart field.columns →
        ∀ column,
          (field.movePermissions.columns.extend
              (Permissions.toColumns field.movePermissions.api)).get? column =
            (Row.foldMarkers field.columns).get? column) := by
  refine ⟨⟨entries_movePermissions field, api_movePermissions field, rfl⟩, ?_, ?_⟩
  · exact movePermissions_of_granted_eq_nil (granted_movePermissions field)
  · intro hempty hapart column
    exact get?_mergedColumns hempty hapart column

end TypedField

/-! ## A field in a catalog

Two of its columns permit to create it, and the text of one column permits nothing.
-/

namespace Catalog

/-- Entries of the columns of the field. -/
def entries : List (String × Cell) :=
  [("Type", .text "string"), ("CREATE", .text "Required"), ("Update", .text " optional "),
    ("Create", .text "OPTIONAL"), ("Delete", .text "no")]

/-- The field. -/
def price : TypedField := { columns := .ofList entries }

theorem entries_price : price.columns.entries = entries :=
  OrderedMap.entries_ofList (by decide)

theorem permission?_no : permission? "Delete" (.text "no") = none := by
  refine Option.eq_none_iff_forall_ne_some.2 fun marker hmarks => ?_
  have htext : Text.fold "no" = marker.2.name := (permission?_text_iff.1 hmarks).2
  revert htext
  cases marker.2 <;> decide +kernel

theorem granted_price :
    price.granted = [(.create, .required), (.update, .optional), (.create, .optional)] := by
  have htype : permission? "Type" (.text "string") = none := by decide +kernel
  have hcreate : permission? "CREATE" (.text "Required") = some (.create, .required) :=
    permission?_text_iff.2 ⟨by decide +kernel, by decide +kernel⟩
  have hupdate : permission? "Update" (.text " optional ") = some (.update, .optional) :=
    permission?_text_iff.2 ⟨by decide +kernel, by decide +kernel⟩
  have hagain : permission? "Create" (.text "OPTIONAL") = some (.create, .optional) :=
    permission?_text_iff.2 ⟨by decide +kernel, by decide +kernel⟩
  have hmarks : entries.map (fun entry => permission? entry.1 entry.2) =
      [none, some (.create, .required), some (.update, .optional), some (.create, .optional),
        none] := by
    simp only [entries, List.map_cons, List.map_nil, htype, hcreate, hupdate, hagain,
      permission?_no]
  have hgranted : price.granted =
      (entries.map fun entry => permission? entry.1 entry.2).filterMap id := by
    rw [TypedField.granted, entries_price, List.filterMap_map]
    rfl
  rw [hgranted, hmarks]
  rfl

/-- No column has the name that a marker is folded to. -/
theorem markersApart_price : TypedField.MarkersApart price.columns := by
  intro action _ cell hcell
  have hentry : (action.name, cell) ∈ entries := entries_price ▸ OrderedMap.mem_entries_iff.2 hcell
  have hname : action.name ∈ entries.map Prod.fst := List.mem_map.2 ⟨_, hentry, rfl⟩
  have habsent : action.name ∉ entries.map Prod.fst := by cases action <;> decide
  exact absurd hname habsent

theorem merges_back :
    price.granted = [(.create, .required), (.update, .optional), (.create, .optional)] ∧
      price.api.isEmpty = true ∧ TypedField.MarkersApart price.columns ∧
      ∀ column,
        (price.movePermissions.columns.extend
            (Permissions.toColumns price.movePermissions.api)).get? column =
          (Row.foldMarkers price.columns).get? column := by
  have hempty : price.api.isEmpty = true := by decide
  exact ⟨granted_price, hempty, markersApart_price,
    (TypedField.moves_and_merges_back price).2.2 hempty markersApart_price⟩

end Catalog

end SheetSchema
