import Mathlib.Data.List.Forall2

/-!
# Lists made of blocks

Items are rewritten one by one into blocks, and the blocks are joined. What holds between every
item and its block carries over to the whole lists.
-/

namespace SheetSchema

variable {α β γ : Type}

/-- Two rewritings in a row. -/
theorem forall₂_trans {R : α → β → Prop} {S : β → γ → Prop} {T : α → γ → Prop}
    (compose : ∀ first second third, R first second → S second third → T first third)
    {items : List α} {middle : List β} {images : List γ} (before : List.Forall₂ R items middle)
    (after : List.Forall₂ S middle images) : List.Forall₂ T items images := by
  induction before generalizing images with
  | nil =>
    cases after
    exact List.Forall₂.nil
  | cons hfirst _ ih =>
    cases after with
    | cons hsecond hrest => exact List.Forall₂.cons (compose _ _ _ hfirst hsecond) (ih hrest)

/-- Items and images that agree on a key, pair by pair, have the same list of keys. -/
theorem map_eq_map_of_forall₂ {f : α → γ} {g : β → γ} {items : List α} {images : List β}
    (agree : List.Forall₂ (fun item image => f item = g image) items images) :
    items.map f = images.map g := by
  rw [← List.forall₂_eq_eq_eq, List.forall₂_map_left_iff, List.forall₂_map_right_iff]
  exact agree

/-- Items and images from which the same is selected, pair by pair, have the same selection. -/
theorem filterMap_eq_filterMap_of_forall₂ {f : α → Option γ} {g : β → Option γ} {items : List α}
    {images : List β} (agree : List.Forall₂ (fun item image => f item = g image) items images) :
    items.filterMap f = images.filterMap g := by
  induction agree with
  | nil => rfl
  | cons hhead _ ih => rw [List.filterMap_cons, List.filterMap_cons, hhead, ih]

/-- Every item has its block. -/
theorem exists_mem_of_forall₂ {R : α → β → Prop} {items : List α} {images : List β}
    (related : List.Forall₂ R items images) {item : α} (member : item ∈ items) :
    ∃ image ∈ images, R item image := by
  induction related with
  | nil => simp at member
  | cons hhead _ ih =>
    rcases List.mem_cons.1 member with rfl | hrest
    · exact ⟨_, List.mem_cons_self, hhead⟩
    · obtain ⟨image, hmem, hrelated⟩ := ih hrest
      exact ⟨image, List.mem_cons_of_mem _ hmem, hrelated⟩

/-- A list cut at one item has its images cut at the image of the item. -/
theorem exists_split_of_forall₂ {R : α → β → Prop} {before after : List α} {item : α}
    {images : List β} (related : List.Forall₂ R (before ++ item :: after) images) :
    ∃ first image rest, images = first ++ image :: rest ∧ R item image ∧
      List.Forall₂ R after rest := by
  induction before generalizing images with
  | nil =>
    cases related with
    | cons hitem hafter => exact ⟨[], _, _, rfl, hitem, hafter⟩
  | cons head before ih =>
    cases related with
    | cons hhead hrest =>
      obtain ⟨first, image, rest, rfl, hitem, hafter⟩ := ih hrest
      exact ⟨_ :: first, image, rest, rfl, hitem, hafter⟩

/-- Some item has a property if some image has the matching one. -/
theorem exists_mem_iff_of_forall₂ {R : α → β → Prop} {items : List α} {images : List β}
    (related : List.Forall₂ R items images) {P : α → Prop} {Q : β → Prop}
    (agree : ∀ item image, R item image → (P item ↔ Q image)) :
    (∃ item ∈ items, P item) ↔ ∃ image ∈ images, Q image := by
  induction related with
  | nil => simp
  | cons hhead _ ih =>
    rw [List.exists_mem_cons_iff, List.exists_mem_cons_iff, ih, agree _ _ hhead]

/-- Where no image occurs twice, items with a common image are the same. -/
theorem eq_of_nodup_flatten {R : α → List β → Prop} {items : List α} {blocks : List (List β)}
    (related : List.Forall₂ R items blocks) (nodup : blocks.flatten.Nodup) {first second : α}
    (member : first ∈ items) (member' : second ∈ items) {image : β}
    (one : ∀ block, R first block → image ∈ block)
    (other : ∀ block, R second block → image ∈ block) : first = second := by
  induction related with
  | nil => simp at member
  | @cons item block rest blocks hhead hrest ih =>
    rw [List.flatten_cons, List.nodup_append] at nodup
    obtain ⟨-, hnodup, hdisjoint⟩ := nodup
    -- an image in the first block is in no other block
    have hapart : ∀ item' ∈ rest, (∀ block, R item' block → image ∈ block) → image ∉ block := by
      intro item' hmem himage hblock
      obtain ⟨block', hblock', hrelated⟩ := exists_mem_of_forall₂ hrest hmem
      exact hdisjoint image hblock image (List.mem_flatten.2 ⟨block', hblock', himage _ hrelated⟩)
        rfl
    rcases List.mem_cons.1 member with rfl | hfirst
    · rcases List.mem_cons.1 member' with rfl | hsecond
      · rfl
      · exact absurd (one block hhead) (hapart second hsecond other)
    · rcases List.mem_cons.1 member' with rfl | hsecond
      · exact absurd (other block hhead) (hapart first hfirst one)
      · exact ih hnodup hfirst hsecond

/-- If only the blocks of one key are kept, and no other item has the key, one block is left. -/
theorem flatMap_of_unique {κ : Type} [DecidableEq κ] {items : List α} (key : α → κ) {item : α}
    (member : item ∈ items) (distinct : (items.map key).Nodup) (block : α → List β) :
    (items.flatMap fun other => if key other = key item then block other else []) = block item := by
  induction items with
  | nil => simp at member
  | cons head rest ih =>
    obtain ⟨hfresh, hrest⟩ := List.nodup_cons.1 distinct
    rw [List.flatMap_cons]
    rcases List.mem_cons.1 member with rfl | hmem
    · -- nothing is kept behind the item
      have hnone : (rest.flatMap fun other => if key other = key item then block other else []) =
          [] := by
        rw [List.flatMap_eq_nil_iff]
        intro other hother
        refine if_neg fun same => hfresh ?_
        rw [← same]
        exact List.mem_map_of_mem hother
      rw [if_pos rfl, hnone, List.append_nil]
    · have hne : key head ≠ key item := fun same => hfresh (same ▸ List.mem_map_of_mem hmem)
      rw [if_neg hne, List.nil_append, ih hmem hrest]

/-- A selection from the blocks is a selection of the items. -/
theorem map_filter_flatten {R : α → List β → Prop} {items : List α} {blocks : List (List β)}
    (related : List.Forall₂ R items blocks) {keep : α → Bool} {keep' : β → Bool} {f : α → γ}
    {g : β → γ} (agree : ∀ item block, R item block →
      (block.filter keep').map g = if keep item = true then [f item] else []) :
    (blocks.flatten.filter keep').map g = (items.filter keep).map f := by
  induction related with
  | nil => rfl
  | @cons item block rest _ hhead _ ih =>
    -- a block contributes the image of its item, or nothing
    rw [List.flatten_cons, List.filter_append, List.map_append, ih, agree _ _ hhead]
    by_cases h : keep item = true
    · rw [if_pos h, List.filter_cons_of_pos h, List.map_cons]
      rfl
    · rw [if_neg h, List.filter_cons_of_neg h, List.nil_append]

end SheetSchema
