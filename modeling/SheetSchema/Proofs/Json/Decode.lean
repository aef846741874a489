import SheetSchema.Json.Decode
import SheetSchema.Proofs.Every
import SheetSchema.Proofs.Json.Tokens

/-!
# Readers on printed shapes

A reader that bounds the depth of a tree succeeds exactly if the tree nests no deeper, and a map
whose values are read back so is read back as a whole: the same names in the same order with the
same values.
-/

namespace SheetSchema

/-! ## Lists of readings -/

section

variable {α β : Type} {read? : α → Option β}

/-- All items are read, each as the value at its place. -/
theorem mapM_eq_some_iff {items : List α} {values : List β} :
    items.mapM read? = some values ↔
      List.Forall₂ (fun item value => read? item = some value) items values := by
  induction items generalizing values with
  | nil =>
    rw [List.mapM_nil, List.forall₂_nil_left_iff]
    exact ⟨fun h => (Option.some.inj h).symm, fun h => h ▸ rfl⟩
  | cons item items ih =>
    rw [List.mapM_cons, List.forall₂_cons_left_iff]
    simp only [Option.bind_eq_bind, Option.bind_eq_some_iff, Option.pure_def, Option.some.injEq]
    constructor
    · intro h
      obtain ⟨value, hvalue, rest, hrest, rfl⟩ := h
      exact ⟨value, rest, hvalue, ih.1 hrest, rfl⟩
    · intro h
      obtain ⟨value, rest, hvalue, hrest, rfl⟩ := h
      exact ⟨value, hvalue, rest, ih.2 hrest, rfl⟩

/-- A reading that fails makes the whole list fail. -/
theorem mapM_eq_none_of_mem {items : List α} {item : α} (member : item ∈ items)
    (failed : read? item = none) : items.mapM read? = none := by
  rw [Option.eq_none_iff_forall_ne_some]
  intro values hvalues
  obtain ⟨value, -, hvalue⟩ := exists_mem_of_forall₂ (mapM_eq_some_iff.1 hvalues) member
  rw [failed] at hvalue
  contradiction

end

namespace Json

/-! ## Depth -/

mutual

/-- Levels of arrays and objects in a tree. -/
def depth : Json → ℕ
  | array items => depthOfItems items + 1
  | object members => depthOfMembers members + 1
  | _ => 0

/-- Levels in the deepest of several items. -/
def depthOfItems : List Json → ℕ
  | [] => 0
  | item :: items => max (depth item) (depthOfItems items)

/-- Levels in the deepest of several members. -/
def depthOfMembers : List (String × Json) → ℕ
  | [] => 0
  | (_, value) :: members => max (depth value) (depthOfMembers members)

end

/-- A record is as deep as the deepest of its members. -/
theorem depthOfMembers_le_iff {members : List (String × Json)} {room : ℕ} :
    depthOfMembers members ≤ room ↔ ∀ member ∈ members, depth member.2 ≤ room := by
  induction members with
  | nil => simp [depthOfMembers]
  | cons member members ih =>
    obtain ⟨name, value⟩ := member
    rw [depthOfMembers, Nat.max_le, ih, List.forall_mem_cons]

/-! ## Readers with a bound -/

variable {α : Type}

/-- A reader accepts a tree exactly if the tree nests at most so deep, and then reads this value. -/
def ReadsWithin (read? : Json → Option α) (room : ℕ) (json : Json) (value : α) : Prop :=
  read? json = if json.depth ≤ room then some value else none

theorem ReadsWithin.eq_some {read? : Json → Option α} {room : ℕ} {json : Json} {value : α}
    (reads : ReadsWithin read? room json value) (shallow : json.depth ≤ room) :
    read? json = some value :=
  reads.trans (if_pos shallow)

theorem ReadsWithin.eq_none {read? : Json → Option α} {room : ℕ} {json : Json} {value : α}
    (reads : ReadsWithin read? room json value) (deep : room < json.depth) :
    read? json = none :=
  reads.trans (if_neg (by omega))

/-! ## Maps -/

/-- A map can be printed if its values can. -/
theorem printable_ofMap {map : OrderedMap α} {toJson : α → Json}
    (each : ∀ entry ∈ map.entries, Printable (toJson entry.2)) : Printable (ofMap map toJson) := by
  refine .object fun member hmember => ?_
  obtain ⟨entry, hentry, rfl⟩ := List.mem_map.1 hmember
  exact each entry hentry

/-- A map is read back if its values are. -/
theorem map?_ofMap {map : OrderedMap α} {toJson : α → Json} {read? : Json → Option α}
    (each : ∀ entry ∈ map.entries, read? (toJson entry.2) = some entry.2) :
    map? read? (ofMap map toJson) = some map := by
  have hmembers : (map.entries.map fun entry => (entry.1, toJson entry.2)).mapM
      (fun member : String × Json => (read? member.2).map fun value => (member.1, value)) =
        some map.entries := by
    rw [mapM_eq_some_iff, List.forall₂_map_left_iff, List.forall₂_same]
    intro entry hentry
    simp only [each entry hentry, Option.map_some]
  show Option.map _ _ = _
  rw [hmembers, Option.map_some, OrderedMap.ofList_entries]

/-- A map whose values are read within a bound is read within the next one. -/
theorem readsWithin_map {map : OrderedMap α} {toJson : α → Json} {read? : Json → Option α}
    {room : ℕ} (each : ∀ entry ∈ map.entries, ReadsWithin read? room (toJson entry.2) entry.2) :
    ReadsWithin (map? read?) (room + 1) (ofMap map toJson) map := by
  have hdepth : (ofMap map toJson).depth ≤ room + 1 ↔
      ∀ entry ∈ map.entries, (toJson entry.2).depth ≤ room := by
    rw [ofMap, depth, Nat.add_le_add_iff_right, depthOfMembers_le_iff, List.forall_mem_map]
  unfold ReadsWithin
  split
  · next hshallow =>
    exact map?_ofMap fun entry hentry =>
      (each entry hentry).eq_some (hdepth.1 hshallow entry hentry)
  · next hdeep =>
    simp only [hdepth, not_forall, Nat.not_le] at hdeep
    obtain ⟨entry, hentry, hlt⟩ := hdeep
    have hnone : (map.entries.map fun entry => (entry.1, toJson entry.2)).mapM
        (fun member : String × Json => (read? member.2).map fun value => (member.1, value)) =
          none := by
      refine mapM_eq_none_of_mem (List.mem_map_of_mem hentry) ?_
      simp only [(each entry hentry).eq_none hlt, Option.map_none]
    show Option.map _ _ = _
    rw [hnone, Option.map_none]

/-- What is read as a map holds only values that were read. -/
theorem every_of_map? {P : α → Prop} {read? : Json → Option α} {json : Json}
    {map : OrderedMap α} (read : map? read? json = some map)
    (holds : ∀ json value, read? json = some value → P value) : map.Every P := by
  cases json with
  | object members =>
    obtain ⟨entries, hentries, rfl⟩ := Option.map_eq_some_iff.1 read
    refine OrderedMap.every_ofList fun entry hentry => ?_
    obtain ⟨member, -, hmember⟩ :=
      exists_mem_of_forall₂ (List.Forall₂.flip (mapM_eq_some_iff.1 hentries)) hentry
    obtain ⟨value, hvalue, rfl⟩ := Option.map_eq_some_iff.1 hmember
    exact holds member.2 value hvalue
  | _ => contradiction

/-! ## Lists of names -/

theorem printable_ofStrings (names : List String) : Printable (ofStrings names) := by
  refine .array fun item hitem => ?_
  obtain ⟨name, -, rfl⟩ := List.mem_map.1 hitem
  exact .string name

/-- Names are read back. -/
theorem list?_ofStrings (names : List String) : list? string? (ofStrings names) = some names := by
  show (names.map string).mapM string? = _
  rw [mapM_eq_some_iff, List.forall₂_map_left_iff, List.forall₂_same]
  intro name hname
  rfl

/-! ## Slots -/

/-- The members of the slots that hold something. -/
def filled (slots : List (String × Option Json)) : List (String × Json) :=
  slots.filterMap fun slot => slot.2.map fun value => (slot.1, value)

/-- Slots that are written have the names of slots. -/
theorem mem_names_of_mem_filled {slots : List (String × Option Json)} {member : String × Json}
    (found : member ∈ filled slots) : member.1 ∈ slots.map Prod.fst := by
  obtain ⟨slot, hslot, hvalue⟩ := List.mem_filterMap.1 found
  obtain ⟨value, -, rfl⟩ := Option.map_eq_some_iff.1 hvalue
  exact List.mem_map_of_mem hslot

/-- Values of a name in two lists of members come one after the other. -/
theorem valuesAt_append (first second : List (String × Json)) (name : String) :
    valuesAt (first ++ second) name = valuesAt first name ++ valuesAt second name := by
  rw [valuesAt, List.filter_append, List.map_append]
  rfl

/-- Members of other names do not fill a slot. -/
theorem valuesAt_eq_nil {members : List (String × Json)} {name : String}
    (absent : ∀ member ∈ members, member.1 ≠ name) : valuesAt members name = [] := by
  unfold valuesAt
  rw [List.map_eq_nil_iff, List.filter_eq_nil_iff]
  intro member hmember hname
  exact absent member hmember (eq_of_beq hname)

/-- A slot is found as often as it is filled, since names of slots are distinct. -/
theorem valuesAt_filled {slots : List (String × Option Json)} (nodup : (slots.map Prod.fst).Nodup)
    {slot : String × Option Json} (found : slot ∈ slots) :
    valuesAt (filled slots) slot.1 = slot.2.toList := by
  induction slots with
  | nil => simp at found
  | cons first slots ih =>
    obtain ⟨hfirst, hrest⟩ := List.nodup_cons.1 nodup
    have hsplit : filled (first :: slots) = filled [first] ++ filled slots :=
      List.filterMap_append (l := [first])
    rw [hsplit, valuesAt_append]
    -- the name stands in one of the two parts only
    rcases List.mem_cons.1 found with rfl | hslot
    · have hothers : valuesAt (filled slots) slot.1 = [] := by
        refine valuesAt_eq_nil fun member hmember hname => ?_
        exact hfirst (hname ▸ mem_names_of_mem_filled hmember)
      rw [hothers, List.append_nil]
      obtain ⟨name, value⟩ := slot
      cases value with
      | none => rfl
      | some value => simp [filled, valuesAt]
    · have hown : valuesAt (filled [first]) slot.1 = [] := by
        refine valuesAt_eq_nil fun member hmember hname => ?_
        have hsame := List.mem_singleton.1 (mem_names_of_mem_filled hmember)
        exact hfirst (hsame ▸ hname ▸ List.mem_map_of_mem hslot)
      rw [hown, List.nil_append]
      exact ih hrest hslot

/-- A slot holds the one value that bears its name, if there is one. -/
theorem slot?_eq_some {members : List (String × Json)} {name : String} {value : Option Json}
    (only : valuesAt members name = value.toList) : slot? members name = some value := by
  unfold slot?
  rw [only]
  cases value <;> rfl

/-- The slots of a record are what it was made of. -/
theorem slots?_filled {slots : List (String × Option Json)}
    (nodup : (slots.map Prod.fst).Nodup) :
    slots? (slots.map Prod.fst) (object (filled slots)) = some (slots.map Prod.snd) := by
  show (slots.map Prod.fst).mapM (slot? (filled slots)) = _
  rw [mapM_eq_some_iff, List.forall₂_map_left_iff, List.forall₂_map_right_iff, List.forall₂_same]
  exact fun slot hslot => slot?_eq_some (valuesAt_filled nodup hslot)

/-- What holds of all values of slots holds of what is written. -/
theorem forall_mem_filled {P : Json → Prop} {slots : List (String × Option Json)}
    (each : ∀ slot ∈ slots, ∀ value, slot.2 = some value → P value) :
    ∀ member ∈ filled slots, P member.2 := by
  intro member hmember
  obtain ⟨slot, hslot, hvalue⟩ := List.mem_filterMap.1 hmember
  obtain ⟨value, hsome, rfl⟩ := Option.map_eq_some_iff.1 hvalue
  exact each slot hslot value hsome

/-- What is read back from a slot that is left out when it holds nothing. -/
theorem optional_map {read? : Json → Option α} {toJson : α → Json} {value : Option α}
    (each : ∀ item, value = some item → read? (toJson item) = some item ∧ toJson item ≠ null) :
    optional read? (value.map toJson) = some value := by
  cases value with
  | none => rfl
  | some item =>
    obtain ⟨hread, hne⟩ := each item rfl
    rw [Option.map_some]
    unfold optional
    split
    · contradiction
    · next hnull => exact absurd (Option.some.inj hnull) hne
    · next hvalue =>
      obtain rfl := Option.some.inj hvalue
      rw [hread, Option.map_some]

end Json

end SheetSchema
