import Mathlib.Data.List.Induction
import SheetSchema.Proofs.Blocks
import SheetSchema.Proofs.OrderedMap

/-!
# What holds of every value

A property of the values of a map is kept by the operations that move values around, and follows
for a rewritten map from the rewriting of one value.
-/

namespace SheetSchema.OrderedMap

variable {α β ε : Type} {P : α → Prop} {Q : β → Prop}

/-- Every value of a map has a property. -/
def Every (P : α → Prop) (map : OrderedMap α) : Prop := ∀ entry ∈ map.entries, P entry.2

/-- A property of all values holds of what is found. -/
theorem Every.get? {map : OrderedMap α} (every : map.Every P) {key : String} {value : α}
    (found : map.get? key = some value) : P value :=
  every (key, value) (mem_entries_iff.2 found)

theorem Every.imp {map : OrderedMap α} {P' : α → Prop} (every : map.Every P)
    (weaken : ∀ value, P value → P' value) : map.Every P' :=
  fun entry hentry => weaken entry.2 (every entry hentry)

theorem every_empty : (empty : OrderedMap α).Every P := by
  intro entry hentry
  simp at hentry

/-- What stands in a list of entries after writing was there or is what was written. -/
theorem mem_insertEntry {key : String} {value : α} {entries : List (String × α)}
    {entry : String × α} (member : entry ∈ insertEntry key value entries) :
    entry = (key, value) ∨ entry ∈ entries := by
  induction entries with
  | nil => exact Or.inl (List.mem_singleton.1 member)
  | cons other rest ih =>
    rw [insertEntry] at member
    split at member
    · rcases List.mem_cons.1 member with rfl | hmem
      · exact Or.inl rfl
      · exact Or.inr (List.mem_cons_of_mem _ hmem)
    · rcases List.mem_cons.1 member with rfl | hmem
      · exact Or.inr List.mem_cons_self
      · exact (ih hmem).imp_right (List.mem_cons_of_mem _)

/-- Writing a value with the property keeps it. -/
theorem Every.insert {map : OrderedMap α} (every : map.Every P) (key : String) {value : α}
    (holds : P value) : (map.insert key value).Every P := by
  intro entry hentry
  rcases mem_insertEntry hentry with rfl | hmem
  · exact holds
  · exact every entry hmem

/-- Changing a value keeps the property if the change does. -/
theorem Every.modify {map : OrderedMap α} (every : map.Every P) (key : String)
    {f : Option α → α} (holds : ∀ value, (∀ old, value = some old → P old) → P (f value)) :
    (map.modify key f).Every P :=
  every.insert key (holds _ fun _ hold => every.get? hold)

theorem Every.filter {map : OrderedMap α} (every : map.Every P) (test : String → α → Bool) :
    (map.filter test).Every P :=
  fun entry hentry => every entry (List.mem_filter.1 hentry).1

/-- A pass that takes each value to one with another property gives that to all. -/
theorem Every.traverse {map : OrderedMap α} (every : map.Every P) {f : String → α → Except ε β}
    {image : OrderedMap β} (done : map.traverse f = .ok image)
    (holds : ∀ key value value', P value → f key value = .ok value' → Q value') :
    image.Every Q := by
  intro entry hentry
  obtain ⟨source, hsource, -, hdone⟩ :=
    exists_mem_of_forall₂ (List.Forall₂.flip (forall₂_of_traverse done)) hentry
  exact holds source.1 source.2 entry.2 (every source hsource) hdone

/-- Where all entries have the property, the map that they are written into has it. -/
theorem every_ofList {entries : List (String × α)} (holds : ∀ entry ∈ entries, P entry.2) :
    (ofList entries).Every P := by
  unfold ofList
  induction entries using List.reverseRecOn with
  | nil => exact every_empty
  | append_singleton entries entry ih =>
    rw [List.foldl_append]
    refine Every.insert (ih fun other hother => ?_) entry.1 (holds entry (by simp))
    exact holds other (List.mem_append_left _ hother)

end SheetSchema.OrderedMap
