import SheetSchema.Cell.Basic
import SheetSchema.Proofs.Cell.Number
import SheetSchema.Proofs.Json.Decode

/-!
# Cells read back

A cell whose records are sorted is read back from its tree if the tree nests no deeper than the
reader allows, and is refused otherwise. Whatever a reader makes a cell of, its records are sorted.
-/

namespace SheetSchema

namespace Json

/-! ## Sorted members -/

variable {α : Type}

/-- Members in the strict order of their names. -/
def SortedMembers (members : List (String × α)) : Prop :=
  members.Pairwise fun first second => first.1 < second.1

/-- A member that sorts behind all others is put at the end. -/
theorem insertMember_of_lt {members : List (String × α)} {name : String} {value : α}
    (last : ∀ member ∈ members, member.1 < name) :
    insertMember name value members = members ++ [(name, value)] := by
  induction members with
  | nil => rfl
  | cons member members ih =>
    obtain ⟨hmember, hmembers⟩ := List.forall_mem_cons.1 last
    have hne : name ≠ member.1 := by grind
    have hnot : ¬ name < member.1 := String.lt_asymm hmember
    rw [insertMember, if_neg hne, if_neg hnot, ih hmembers]
    rfl

/-- Members that come in order are each put at the end. -/
theorem foldl_insertMember {sorted members : List (String × α)}
    (order : SortedMembers (sorted ++ members)) :
    members.foldl (fun sorted entry => insertMember entry.1 entry.2 sorted) sorted =
      sorted ++ members := by
  induction members generalizing sorted with
  | nil => simp
  | cons member members ih =>
    have hlast : ∀ other ∈ sorted, other.1 < member.1 := fun other hother =>
      (List.pairwise_append.1 order).2.2 other hother member List.mem_cons_self
    have hsplit : sorted ++ member :: members = sorted ++ [(member.1, member.2)] ++ members := by
      simp
    rw [List.foldl_cons, insertMember_of_lt hlast, hsplit]
    exact ih (hsplit ▸ order)

/-- Sorted members are left as they are. -/
theorem sortMembers_of_sorted {members : List (String × α)} (order : SortedMembers members) :
    sortMembers members = members :=
  foldl_insertMember order

/-- Sorting makes up no members. -/
theorem mem_insertMember {name : String} {value : α} {members : List (String × α)}
    {member : String × α} (found : member ∈ insertMember name value members) :
    member = (name, value) ∨ member ∈ members := by
  induction members with
  | nil => exact Or.inl (List.mem_singleton.1 found)
  | cons other members ih =>
    rw [insertMember] at found
    split at found
    · rcases List.mem_cons.1 found with rfl | hmem
      · exact Or.inl rfl
      · exact Or.inr (List.mem_cons_of_mem _ hmem)
    · split at found
      · exact List.mem_cons.1 found
      · rcases List.mem_cons.1 found with rfl | hmem
        · exact Or.inr List.mem_cons_self
        · exact (ih hmem).imp_right (List.mem_cons_of_mem _)

/-- A member is put where the order stays. -/
theorem sorted_insertMember {members : List (String × α)} (order : SortedMembers members)
    (name : String) (value : α) : SortedMembers (insertMember name value members) := by
  induction members with
  | nil => exact List.pairwise_singleton _ _
  | cons member members ih =>
    obtain ⟨hfirst, hrest⟩ := List.pairwise_cons.1 order
    rw [insertMember]
    split
    · next hsame =>
      subst hsame
      exact List.pairwise_cons.2 ⟨hfirst, hrest⟩
    · next hne =>
      split
      · next hless =>
        refine List.pairwise_cons.2 ⟨?_, order⟩
        intro other hother
        rcases List.mem_cons.1 hother with rfl | hmem
        · exact hless
        · exact String.lt_trans hless (hfirst other hmem)
      · next hnot =>
        have hgreater : member.1 < name := by grind
        refine List.pairwise_cons.2 ⟨?_, ih hrest⟩
        intro other hother
        rcases mem_insertMember hother with rfl | hmem
        · exact hgreater
        · exact hfirst other hmem

/-- Members come out of sorting in order. -/
theorem sorted_sortMembers (members : List (String × α)) : SortedMembers (sortMembers members) := by
  unfold sortMembers
  induction members using List.reverseRecOn with
  | nil => exact List.Pairwise.nil
  | append_singleton members member ih =>
    rw [List.foldl_append]
    exact sorted_insertMember ih member.1 member.2

theorem mem_sortMembers {members : List (String × α)} {member : String × α}
    (found : member ∈ sortMembers members) : member ∈ members := by
  unfold sortMembers at found
  -- on the end of the list: members are inserted one after the other
  induction members using List.reverseRecOn with
  | nil => exact found
  | append_singleton members last ih =>
    rw [List.foldl_append] at found
    rcases mem_insertMember found with rfl | hmem
    · exact List.mem_append_right _ (List.mem_singleton.2 rfl)
    · exact List.mem_append_left _ (ih hmem)

end Json

namespace Cell

/-! ## Canonical cells -/

/-- A cell whose records are sorted by name, at every level. -/
inductive Canonical : Cell → Prop where
  | null : Canonical .null
  | bool (value : Bool) : Canonical (.bool value)
  | number (value : Cell.Number) : Canonical (.number value)
  | text (value : String) : Canonical (.text value)
  | list {items : List Cell} (each : ∀ item ∈ items, Canonical item) : Canonical (.list items)
  | record {members : List (String × Cell)} (order : Json.SortedMembers members)
    (each : ∀ member ∈ members, Canonical member.2) : Canonical (.record members)

/-- A record is canonical however its members are given. -/
theorem canonical_recordOf {members : List (String × Cell)}
    (each : ∀ member ∈ members, Canonical member.2) : Canonical (recordOf members) :=
  Canonical.record (Json.sorted_sortMembers members) fun member hmember =>
    each member (Json.mem_sortMembers hmember)

mutual

/-- Every cell can be printed. -/
theorem printable_toJson : (cell : Cell) → Json.Printable cell.toJson
  | .null => .null
  | .bool value => .bool value
  | .number value => .number value.exists_numeral
  | .text value => .string value
  | .list items => .array (printable_itemsToJson items)
  | .record members => .object (printable_membersToJson members)

/-- The items of a list can be printed one by one. -/
theorem printable_itemsToJson :
    (items : List Cell) → ∀ item ∈ itemsToJson items, Json.Printable item
  | [] => by simp [itemsToJson]
  | item :: items => by
    rw [itemsToJson, List.forall_mem_cons]
    exact ⟨printable_toJson item, printable_itemsToJson items⟩

theorem printable_membersToJson :
    (members : List (String × Cell)) → ∀ member ∈ membersToJson members, Json.Printable member.2
  | [] => by simp [membersToJson]
  | (name, value) :: members => by
    rw [membersToJson, List.forall_mem_cons]
    exact ⟨printable_toJson value, printable_membersToJson members⟩

end

/-! ## Reading -/

mutual

/-- A canonical cell is read back exactly if it nests no deeper than allowed. -/
theorem readsWithin_toJson :
    (cell : Cell) → cell.Canonical → ∀ room, Json.ReadsWithin (ofJson? room) room cell.toJson cell
  | .null, _, _ => rfl
  | .bool _, _, _ => rfl
  | .number value, _, _ => by
    unfold Json.ReadsWithin
    rw [toJson, ofJson?, value.ofLiteral?_toText]
    rfl
  | .text _, _, _ => rfl
  | .list items, canonical, room => by
    cases canonical with
    | list each =>
      unfold Json.ReadsWithin
      cases room with
      | zero => rfl
      | succ room =>
        rw [toJson, ofJson?, itemsOfJson?_itemsToJson items each room, Json.depth]
        simp only [Nat.add_le_add_iff_right]
        split <;> rfl
  | .record members, canonical, room => by
    cases canonical with
    | record order each =>
      unfold Json.ReadsWithin
      cases room with
      | zero => rfl
      | succ room =>
        rw [toJson, ofJson?, membersOfJson?_membersToJson members each room, Json.depth]
        simp only [Nat.add_le_add_iff_right]
        split
        · -- the reader sorts members, which are sorted already
          rw [Option.map_some, recordOf, Json.sortMembers_of_sorted order]
        · rfl

/-- Items are read back as far as the room for nesting allows. -/
theorem itemsOfJson?_itemsToJson :
    (items : List Cell) → (∀ item ∈ items, item.Canonical) → ∀ room,
      itemsOfJson? room (itemsToJson items) =
        if Json.depthOfItems (itemsToJson items) ≤ room then some items else none
  | [], _, _ => by simp [itemsToJson, itemsOfJson?, Json.depthOfItems]
  | item :: items, canonical, room => by
    obtain ⟨hitem, hitems⟩ := List.forall_mem_cons.1 canonical
    have hfirst := readsWithin_toJson item hitem room
    have hrest := itemsOfJson?_itemsToJson items hitems room
    unfold Json.ReadsWithin at hfirst
    rw [itemsToJson, itemsOfJson?, hfirst, hrest, Json.depthOfItems]
    simp only [Nat.max_le]
    by_cases hshallow : item.toJson.depth ≤ room
    · by_cases hothers : Json.depthOfItems (itemsToJson items) ≤ room
      · simp [hshallow, hothers]
      · simp [hshallow, hothers]
    · simp [hshallow]

/-- Members are read back as far as the room for nesting allows. -/
theorem membersOfJson?_membersToJson :
    (members : List (String × Cell)) → (∀ member ∈ members, member.2.Canonical) → ∀ room,
      membersOfJson? room (membersToJson members) =
        if Json.depthOfMembers (membersToJson members) ≤ room then some members else none
  | [], _, _ => by simp [membersToJson, membersOfJson?, Json.depthOfMembers]
  | (name, value) :: members, canonical, room => by
    obtain ⟨hvalue, hmembers⟩ := List.forall_mem_cons.1 canonical
    have hfirst := readsWithin_toJson value hvalue room
    have hrest := membersOfJson?_membersToJson members hmembers room
    unfold Json.ReadsWithin at hfirst
    rw [membersToJson, membersOfJson?, hfirst, hrest, Json.depthOfMembers]
    simp only [Nat.max_le]
    by_cases hshallow : value.toJson.depth ≤ room
    · by_cases hothers : Json.depthOfMembers (membersToJson members) ≤ room
      · simp [hshallow, hothers]
      · simp [hshallow, hothers]
    · simp [hshallow]

end

/-- Only the empty cell is written as null. -/
theorem toJson_ne_null {cell : Cell} (ne : cell ≠ .null) : cell.toJson ≠ .null := by
  cases cell <;> simp_all [toJson]

/-- A canonical cell that nests no deeper than `room` levels. -/
structure Fits (room : ℕ) (cell : Cell) : Prop where
  canonical : cell.Canonical
  shallow : cell.toJson.depth ≤ room

/-- A cell that fits into a document is read back from it. -/
theorem Fits.ofJson? {room : ℕ} {cell : Cell} (fits : cell.Fits room) :
    Cell.ofJson? room cell.toJson = some cell :=
  (readsWithin_toJson cell fits.canonical room).eq_some fits.shallow

theorem Fits.mono {room more : ℕ} {cell : Cell} (fits : cell.Fits room) (le : room ≤ more) :
    cell.Fits more :=
  ⟨fits.canonical, fits.shallow.trans le⟩

/-- Items that fit singly fit into one list. -/
theorem depthOfItems_itemsToJson_le {items : List Cell} {room : ℕ}
    (each : ∀ item ∈ items, item.toJson.depth ≤ room) :
    Json.depthOfItems (itemsToJson items) ≤ room := by
  induction items with
  | nil => exact Nat.zero_le _
  | cons item items ih =>
    obtain ⟨hitem, hitems⟩ := List.forall_mem_cons.1 each
    exact Nat.max_le.2 ⟨hitem, ih hitems⟩

/-- Members that fit singly fit into one record. -/
theorem depthOfMembers_membersToJson_le {members : List (String × Cell)} {room : ℕ}
    (each : ∀ member ∈ members, member.2.toJson.depth ≤ room) :
    Json.depthOfMembers (membersToJson members) ≤ room := by
  induction members with
  | nil => exact Nat.zero_le _
  | cons member members ih =>
    obtain ⟨hmember, hmembers⟩ := List.forall_mem_cons.1 each
    exact Nat.max_le.2 ⟨hmember, ih hmembers⟩

/-- A list takes one level more than its items. -/
theorem fits_list {items : List Cell} {room : ℕ} (each : ∀ item ∈ items, item.Fits room) :
    (Cell.list items).Fits (room + 1) where
  canonical := .list fun item hitem => (each item hitem).canonical
  shallow := Nat.succ_le_succ
    (depthOfItems_itemsToJson_le fun item hitem => (each item hitem).shallow)

/-- A record takes one level more than its members. -/
theorem fits_recordOf {members : List (String × Cell)} {room : ℕ}
    (each : ∀ member ∈ members, member.2.Fits room) : (recordOf members).Fits (room + 1) where
  canonical := canonical_recordOf fun member hmember => (each member hmember).canonical
  shallow := Nat.succ_le_succ (depthOfMembers_membersToJson_le fun member hmember =>
    (each member (Json.mem_sortMembers hmember)).shallow)

mutual

/-- Whatever tree a cell is read from, it fits what the reader allows. -/
theorem fits_of_ofJson? : (json : Json) → ∀ {room : ℕ} {cell : Cell},
    ofJson? room json = some cell → cell.Fits room
  | .null, _, _, read => by
    obtain rfl := Option.some.inj read
    exact ⟨.null, Nat.zero_le _⟩
  | .bool value, _, _, read => by
    obtain rfl := Option.some.inj read
    exact ⟨.bool value, Nat.zero_le _⟩
  | .number literal, _, _, read => by
    obtain ⟨value, -, rfl⟩ := Option.map_eq_some_iff.1 read
    exact ⟨.number value, Nat.zero_le _⟩
  | .string value, _, _, read => by
    obtain rfl := Option.some.inj read
    exact ⟨.text value, Nat.zero_le _⟩
  | .array items, room, _, read => by
    cases room with
    | zero => contradiction
    | succ room =>
      obtain ⟨cells, hcells, rfl⟩ := Option.map_eq_some_iff.1 read
      exact fits_list (fits_of_itemsOfJson? items hcells)
  | .object members, room, _, read => by
    cases room with
    | zero => contradiction
    | succ room =>
      obtain ⟨cells, hcells, rfl⟩ := Option.map_eq_some_iff.1 read
      exact fits_recordOf (fits_of_membersOfJson? members hcells)
  | .unpaired, _, _, read => by contradiction

/-- What was read as items fits where it was read. -/
theorem fits_of_itemsOfJson? : (items : List Json) → ∀ {room : ℕ} {cells : List Cell},
    itemsOfJson? room items = some cells → ∀ cell ∈ cells, cell.Fits room
  | [], _, _, read => by
    obtain rfl := Option.some.inj read
    simp
  | item :: items, _, _, read => by
    simp only [itemsOfJson?, Option.bind_eq_bind, Option.bind_eq_some_iff,
      Option.some.injEq] at read
    obtain ⟨cell, hcell, cells, hcells, rfl⟩ := read
    exact List.forall_mem_cons.2 ⟨fits_of_ofJson? item hcell, fits_of_itemsOfJson? items hcells⟩

/-- What was read as members fits where it was read. -/
theorem fits_of_membersOfJson? :
    (members : List (String × Json)) → ∀ {room : ℕ} {cells : List (String × Cell)},
      membersOfJson? room members = some cells → ∀ member ∈ cells, member.2.Fits room
  | [], _, _, read => by
    obtain rfl := Option.some.inj read
    simp
  | (name, value) :: members, _, _, read => by
    simp only [membersOfJson?, Option.bind_eq_bind, Option.bind_eq_some_iff,
      Option.some.injEq] at read
    obtain ⟨cell, hcell, cells, hcells, rfl⟩ := read
    exact List.forall_mem_cons.2
      ⟨fits_of_ofJson? value hcell, fits_of_membersOfJson? members hcells⟩

end

end Cell

end SheetSchema
