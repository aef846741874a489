import SheetSchema.Proofs.Schema.Document

/-!
# Documents of compiled schemas

A compiled schema is read back from its document, and so is a route schema. A field is written as
one object, its columns beside its slots, so what is read back is the field itself only if none of
its columns bears the name of a slot and no slot holds a null.
-/

namespace SheetSchema

open Json (slot? slots? valuesAt filled optional withDefault)

/-! ## Actions -/

namespace PerAction

variable {α : Type} {table : PerAction α} {toJson : α → Json}

/-- What a table holds for every action. -/
def slots (table : PerAction α) (toJson : α → Json) : List (String × Option Json) :=
  Action.all.map fun action => (action.name, (table.get action).map toJson)

/-- A table is written as the slots that are filled. -/
theorem toJson_eq_filled :
    PerAction.toJson table toJson = .object (filled (table.slots toJson)) := by
  unfold PerAction.toJson entries filled slots
  rw [List.map_filterMap, List.filterMap_map]
  refine congrArg Json.object (List.filterMap_congr fun action _ => ?_)
  cases hvalue : table.get action <;> simp [hvalue]

/-- A table is read back if its values are, and none of them is written as null. -/
theorem ofJson?_toJson {read? : Json → Option α}
    (each : ∀ action value, table.get action = some value →
      read? (toJson value) = some value ∧ toJson value ≠ .null) :
    PerAction.ofJson? read? (PerAction.toJson table toJson) = some table := by
  have hnodup : ((table.slots toJson).map Prod.fst).Nodup :=
    (by decide : (Action.all.map Action.name).Nodup)
  have hslots : slots? (Action.all.map Action.name) (PerAction.toJson table toJson) =
      some (Action.all.map fun action => (table.get action).map toJson) := by
    rw [toJson_eq_filled]
    exact Json.slots?_filled hnodup
  have hread : ∀ action, optional read? ((table.get action).map toJson) = some (table.get action) :=
    fun action => Json.optional_map (each action)
  have hcreate := hread .create
  have hreads := hread .read
  have hupdate := hread .update
  have hdelete := hread .delete
  unfold PerAction.ofJson?
  rw [hslots]
  simp only [get] at hcreate hreads hupdate hdelete
  simp [Action.all, get, hcreate, hreads, hupdate, hdelete]

/-- A table can be printed if its values can. -/
theorem printable_toJson (each : ∀ value, Json.Printable (toJson value)) :
    Json.Printable (PerAction.toJson table toJson) := by
  refine .object fun member hmember => ?_
  obtain ⟨entry, -, rfl⟩ := List.mem_map.1 hmember
  exact each entry.2

end PerAction

/-- Permissions are read back. -/
theorem Permissions.ofJson?_toJson (api : Permissions) :
    Permissions.ofJson? (Permissions.toJson api) = some api := by
  refine PerAction.ofJson?_toJson fun action permission _ => ⟨?_, by simp⟩
  cases permission <;> rfl

/-- Routes are read back. -/
theorem Routes.ofJson?_toJson (routes : Routes) :
    Routes.ofJson? (Routes.toJson routes) = some routes :=
  PerAction.ofJson?_toJson fun _ names _ => ⟨Json.list?_ofStrings names, by simp [Json.ofStrings]⟩

/-! ## Lengths -/

/-- A length is read back as long as it fits into a machine word. -/
theorem length?_toJson {length : ℕ} (lt : length < 0x10000000000000000) :
    length? (.number (toString length)) = some length := by
  have hread : Cell.Number.ofLiteral? (toString length) = some (.natural length lt) :=
    Cell.Number.ofLiteral?_toText (.natural length lt)
  rw [length?, hread]

theorem printable_length {length : ℕ} (lt : length < 0x10000000000000000) :
    Json.Printable (.number (toString length)) :=
  .number (Cell.Number.natural length lt).exists_numeral

/-! ## Fields -/

namespace TypedField

/-- A field that its document tells all about: its columns leave the names of the slots free, and
what its slots hold can be written. -/
structure Restorable (room : ℕ) (field : TypedField) : Prop where
  cells : Row.EveryCell (Cell.Fits room) field.columns
  free : ∀ entry ∈ field.columns.entries, entry.1 ∉ reservedColumns
  default : ∀ cell, field.defaultValue = some cell → cell.Fits room ∧ cell ≠ .null
  length : ∀ length, field.length = some length → length < 0x10000000000000000

variable {room : ℕ} {field : TypedField}

/-- What is written into the slots of a field. -/
def slots (field : TypedField) : List (String × Option Json) :=
  [("type", field.type.map .string),
    ("Length", field.length.map fun length => .number (toString length)),
    ("DefaultValue", field.defaultValue.map Cell.toJson),
    ("primaryKey", if field.primaryKey then some (.bool true) else none),
    ("autoCreateTime", if field.autoCreateTime then some (.bool true) else none),
    ("references", field.references.map .string),
    ("constraint", field.constraint.map .string),
    ("api", if field.api.isEmpty then none else some (Permissions.toJson field.api))]

/-- A slot is written only if it has a value. -/
theorem slotMember_eq_filled {α : Type} (name : String) (value : Option α) (toJson : α → Json) :
    slotMember name value toJson = filled [(name, value.map toJson)] := by
  cases value <;> rfl

/-- A mark is written only if it is set. -/
theorem markMember_eq_filled (name : String) (mark : Bool) :
    markMember name mark = filled [(name, if mark then some (.bool true) else none)] := by
  cases mark <;> rfl

/-- All slots of a field, in the form that reading slots is stated for. -/
theorem slotMembers_eq_filled : field.slotMembers = filled field.slots := by
  have hapi : (if field.api.isEmpty then [] else [("api", Permissions.toJson field.api)]) =
      filled [("api",
        if field.api.isEmpty then none else some (Permissions.toJson field.api))] := by
    cases field.api.isEmpty <;> rfl
  unfold slotMembers
  rw [hapi]
  simp only [slotMember_eq_filled, markMember_eq_filled, filled, ← List.filterMap_append]
  rfl

/-- The members of the columns of a field. -/
def columnMembers (field : TypedField) : List (String × Json) :=
  field.columns.entries.map fun entry => (entry.1, entry.2.toJson)

/-- The document of a field: its columns first, its slots behind. -/
theorem toJson_eq : field.toJson = .object (field.columnMembers ++ filled field.slots) := by
  rw [toJson, slotMembers_eq_filled]
  rfl

/-- A column that is written never has the name of a slot. -/
theorem notMem_reserved_of_mem_columnMembers (restorable : Restorable room field)
    {member : String × Json} (found : member ∈ field.columnMembers) :
    member.1 ∉ reservedColumns := by
  obtain ⟨entry, hentry, rfl⟩ := List.mem_map.1 found
  exact restorable.free entry hentry

/-- The columns leave the slots to themselves. -/
theorem slot?_members (restorable : Restorable room field) {slot : String × Option Json}
    (found : slot ∈ field.slots) :
    slot? (field.columnMembers ++ filled field.slots) slot.1 = some slot.2 := by
  have hreserved : slot.1 ∈ reservedColumns := List.mem_map_of_mem found
  have hcolumns : valuesAt field.columnMembers slot.1 = [] := by
    refine Json.valuesAt_eq_nil fun member hmember hname => ?_
    exact notMem_reserved_of_mem_columnMembers restorable hmember (hname ▸ hreserved)
  have hnodup : (field.slots.map Prod.fst).Nodup := (by decide : reservedColumns.Nodup)
  refine Json.slot?_eq_some ?_
  rw [Json.valuesAt_append, hcolumns, List.nil_append]
  exact Json.valuesAt_filled hnodup found

/-- The slots leave the columns to themselves. -/
theorem filter_members (restorable : Restorable room field) :
    (field.columnMembers ++ filled field.slots).filter
      (fun member => !reservedColumns.contains member.1) = field.columnMembers := by
  have hcolumns : ∀ member ∈ field.columnMembers, (!reservedColumns.contains member.1) = true := by
    intro member hmember
    simpa using notMem_reserved_of_mem_columnMembers restorable hmember
  have hslots : ∀ member ∈ filled field.slots, ¬(!reservedColumns.contains member.1) = true := by
    intro member hmember
    have hreserved : member.1 ∈ reservedColumns := Json.mem_names_of_mem_filled hmember
    simpa using hreserved
  rw [List.filter_append, List.filter_eq_self.2 hcolumns, List.filter_eq_nil_iff.2 hslots,
    List.append_nil]

/-- A name that is left out if it is not given is read back. -/
theorem optional_string (value : Option String) :
    optional Json.string? (value.map .string) = some value :=
  Json.optional_map fun _ _ => ⟨rfl, by simp⟩

/-- A mark that is left out if it is not set is read back. -/
theorem withDefault_mark (mark : Bool) :
    withDefault false Json.bool? (if mark then some (.bool true) else none) = some mark := by
  cases mark <;> rfl

/-- Permissions that are left out if there are none are read back. -/
theorem withDefault_api (api : Permissions) :
    withDefault .empty Permissions.ofJson?
      (if api.isEmpty then none else some (Permissions.toJson api)) = some api := by
  by_cases hempty : api.isEmpty
  · have hnone : api = .empty := by
      obtain ⟨create, read, update, delete⟩ := api
      simp [PerAction.isEmpty, Action.all, PerAction.get] at hempty
      obtain ⟨rfl, rfl, rfl, rfl⟩ := hempty
      rfl
    rw [if_pos hempty, hnone]
    rfl
  · rw [if_neg hempty]
    exact Permissions.ofJson?_toJson api

/-- What holds of all that the slots of a field may be written as. -/
theorem forall_mem_slots {P : Json → Prop} (string : ∀ text, P (.string text))
    (mark : P (.bool true))
    (length : ∀ length, field.length = some length → P (.number (toString length)))
    (default : ∀ cell, field.defaultValue = some cell → P cell.toJson)
    (api : P (Permissions.toJson field.api)) : ∀ member ∈ filled field.slots, P member.2 := by
  have hstring : ∀ text : Option String, ∀ value, text.map Json.string = some value → P value := by
    intro text value hvalue
    obtain ⟨text, -, rfl⟩ := Option.map_eq_some_iff.1 hvalue
    exact string text
  have hmark : ∀ mark : Bool, ∀ value, (if mark then some (.bool true) else none) = some value →
      P value := by
    intro mark value hvalue
    split at hvalue
    · exact Option.some.inj hvalue ▸ ‹P (.bool true)›
    · contradiction
  refine Json.forall_mem_filled ?_
  simp only [slots, List.forall_mem_cons, List.not_mem_nil, false_implies, implies_true, and_true]
  refine ⟨hstring _, ?_, ?_, hmark _, hmark _, hstring _, hstring _, ?_⟩
  · intro value hvalue
    obtain ⟨number, hnumber, rfl⟩ := Option.map_eq_some_iff.1 hvalue
    exact length number hnumber
  · intro value hvalue
    obtain ⟨cell, hcell, rfl⟩ := Option.map_eq_some_iff.1 hvalue
    exact default cell hcell
  · intro value hvalue
    split at hvalue
    · contradiction
    · exact Option.some.inj hvalue ▸ api

/-- No slot is written as null. -/
theorem Restorable.slotMembers_ne_null (restorable : Restorable room field) :
    ∀ member ∈ field.slotMembers, member.2 ≠ .null := by
  have hdefault : ∀ cell, field.defaultValue = some cell → cell.toJson ≠ .null :=
    fun cell hcell => Cell.toJson_ne_null (restorable.default cell hcell).2
  have hapi : Permissions.toJson field.api ≠ .null := by
    rw [Permissions.toJson, PerAction.toJson]
    simp
  rw [slotMembers_eq_filled]
  exact forall_mem_slots (P := fun value => value ≠ .null) (fun _ => by simp) (by simp)
    (fun _ _ => by simp) hdefault hapi

/-- A field is read back from its document. -/
theorem ofJson?_toJson (restorable : Restorable room field) :
    TypedField.ofJson? (room + 1) field.toJson = some field := by
  have hcolumns : Row.ofJson? (room + 1) (.object field.columnMembers) = some field.columns :=
    Json.map?_ofMap fun entry hentry => (restorable.cells entry hentry).ofJson?
  have hlength : optional length? (field.length.map fun length => .number (toString length)) =
      some field.length :=
    Json.optional_map fun length hsome => ⟨length?_toJson (restorable.length length hsome), by simp⟩
  have hdefault : optional (Cell.ofJson? room) (field.defaultValue.map Cell.toJson) =
      some field.defaultValue := by
    refine Json.optional_map fun cell hsome => ?_
    obtain ⟨hfits, hne⟩ := restorable.default cell hsome
    exact ⟨hfits.ofJson?, Cell.toJson_ne_null hne⟩
  have hslots : ∀ slot ∈ field.slots,
      slot? (field.columnMembers ++ filled field.slots) slot.1 = some slot.2 :=
    fun slot hslot => slot?_members restorable hslot
  -- columns and slots are told apart by name from here on, however the members are made up
  generalize hmembers : field.columnMembers ++ filled field.slots = members at hslots
  have hkept := filter_members restorable
  rw [hmembers] at hkept
  simp only [slots, List.forall_mem_cons, List.not_mem_nil, false_implies, implies_true,
    and_true] at hslots
  obtain ⟨htype, hlong, hvalue, hprimary, hcreate, hreferences, hconstraint, hapi⟩ := hslots
  rw [toJson_eq, hmembers]
  unfold ofJson?
  simp only [hkept, hcolumns, htype, hlong, hvalue, hprimary, hcreate, hreferences, hconstraint,
    hapi, Option.bind_eq_bind, Option.bind_some, optional_string, hlength, hdefault,
    withDefault_mark, withDefault_api, Nat.add_sub_cancel]

/-- A field can be printed if its columns can. -/
theorem printable_toJson (restorable : Restorable room field) : Json.Printable field.toJson := by
  rw [toJson_eq]
  refine .object (List.forall_mem_append.2 ⟨?_, ?_⟩)
  · intro member hmember
    obtain ⟨entry, -, rfl⟩ := List.mem_map.1 hmember
    exact Cell.printable_toJson entry.2
  · exact forall_mem_slots .string (.bool true)
      (fun length hlength => printable_length (restorable.length length hlength))
      (fun cell _ => Cell.printable_toJson cell)
      (PerAction.printable_toJson fun permission => .string permission.name)

end TypedField

/-! ## Schemas -/

/-- Every field of a typed model has a property. -/
def TypedModel.EveryField (P : TypedField → Prop) (fields : TypedModel) : Prop := fields.Every P

/-- Every field of a typed schema has a property. -/
def TypedSchema.EveryField (P : TypedField → Prop) (schema : TypedSchema) : Prop :=
  schema.Every fun models => models.Every (TypedModel.EveryField P)

/-- A schema whose fields are restorable is read back from the text of its document. -/
theorem TypedSchema.ofText?_toDocument {schema : TypedSchema}
    (restorable : TypedSchema.EveryField (TypedField.Restorable 123) schema) :
    TypedSchema.ofText? (TypedSchema.toJson schema).toDocument = some schema := by
  have hprintable : Json.Printable (TypedSchema.toJson schema) :=
    Json.printable_ofMap fun package hpackage => Json.printable_ofMap fun model hmodel =>
      Json.printable_ofMap fun field hfield =>
        TypedField.printable_toJson (restorable package hpackage model hmodel field hfield)
  unfold TypedSchema.ofText?
  rw [Json.read?_toDocument hprintable, Option.bind_some]
  exact Json.map?_ofMap fun package hpackage => Json.map?_ofMap fun model hmodel =>
    Json.map?_ofMap fun field hfield =>
      TypedField.ofJson?_toJson (restorable package hpackage model hmodel field hfield)

/-- A route schema is read back from the text of its document. -/
theorem RouteTable.ofText?_toDocument (routes : RouteTable) :
    RouteTable.ofText? (RouteTable.toJson routes).toDocument = some routes := by
  have hprintable : Json.Printable (RouteTable.toJson routes) :=
    Json.printable_ofMap fun _ _ => Json.printable_ofMap fun _ _ =>
      PerAction.printable_toJson Json.printable_ofStrings
  unfold RouteTable.ofText?
  rw [Json.read?_toDocument hprintable, Option.bind_some]
  exact Json.map?_ofMap fun _ _ => Json.map?_ofMap fun model _ => Routes.ofJson?_toJson model.2

end SheetSchema
