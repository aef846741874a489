import SheetSchema.Proofs.Compilation.Emission
import SheetSchema.Proofs.Hierarchy.Passes

/-!
# Parents before children

In the order of a compilation that is ordered by passes, a model comes after its parent if all
that is above the parent is in the workbook. Relationships may also point out of the workbook,
which is only warned about. A model whose parent is not defined is no root, and its parent is never
placed, so no pass places it or what hangs below it: these models follow in the order in which they
are taken up, and a child may come first.
-/

namespace SheetSchema

namespace Compilation

/-- The order of a compilation, and its models as they are taken up, each once. -/
theorem order_eq_of_workbook {workbook : Workbook} {config : CompilerSettings}
    {extraction : Extraction} {compilation : Compilation}
    (extracted : Extraction.ofWorkbook workbook = .ok extraction)
    (compiled : ofExtraction config extraction = .ok compilation) :
    compilation.order = compilation.hierarchy.inOrder config.sort
        (TypedSchema.discoveryOrder compilation.schema) ∧
      (TypedSchema.discoveryOrder compilation.schema).Nodup := by
  obtain ⟨raw, resolutions, expanded, hsteps, rfl⟩ := ofExtraction_eq_ok_iff.1 compiled
  exact ⟨rfl, (keepsModelsApart hsteps (hsteps.toldApart extracted config)).discovery⟩

/-- Where no model has two parents and chains of parents are not longer than there are passes, a
parent comes before its child exactly if everything above the parent is a model of the workbook, or
if the parent happens to be taken up first. In particular all parents come first if every parent
is a model of the workbook. -/
theorem parents_precede_iff {workbook : Workbook} {config : CompilerSettings}
    {extraction : Extraction} {compilation : Compilation}
    (extracted : Extraction.ofWorkbook workbook = .ok extraction)
    (compiled : ofExtraction config extraction = .ok compilation)
    (passes : config.sort = .boundedPasses) (single : compilation.hierarchy.AtMostOneParent)
    (shallow : compilation.hierarchy.IsShallow Hierarchy.passCount) :
    (∀ parent ∈ compilation.order, ∀ child ∈ compilation.order,
      (parent, child) ∈ compilation.hierarchy.edges →
        ([parent, child].Sublist compilation.order ↔
          (∀ chain, compilation.hierarchy.IsParentChain (parent :: chain) →
            chain ⊆ compilation.order) ∨
          [parent, child].Sublist (TypedSchema.discoveryOrder compilation.schema))) ∧
      ((∀ edge ∈ compilation.hierarchy.edges, edge.1 ∈ compilation.order) →
        ∀ edge ∈ compilation.hierarchy.edges, edge.2 ∈ compilation.order →
          [edge.1, edge.2].Sublist compilation.order) := by
  obtain ⟨horder, hlisting⟩ := order_eq_of_workbook extracted compiled
  rw [passes] at horder
  -- sorting drops no model, so what is said of the discovered models holds of the ordered ones
  have hlisted : ∀ model, model ∈ compilation.order ↔
      model ∈ TypedSchema.discoveryOrder compilation.schema := by
    intro model
    rw [horder]
    exact Hierarchy.mem_inOrder
  have hprecede : ∀ parent ∈ compilation.order, ∀ child ∈ compilation.order,
      (parent, child) ∈ compilation.hierarchy.edges →
        ([parent, child].Sublist compilation.order ↔
          (∀ chain, compilation.hierarchy.IsParentChain (parent :: chain) →
            chain ⊆ compilation.order) ∨
          [parent, child].Sublist (TypedSchema.discoveryOrder compilation.schema)) := by
    intro parent hparent child hchild hedge
    have hiff := Hierarchy.sublist_boundedPasses_iff hlisting single shallow
      ((hlisted parent).1 hparent) ((hlisted child).1 hchild) hedge
    simp only [List.subset_def, hlisted]
    rw [horder]
    exact hiff
  refine ⟨hprecede, ?_⟩
  intro closed edge hedge hchild
  exact (hprecede edge.1 (closed edge hedge) edge.2 hchild hedge).2
    (Or.inl fun chain hchain => hchain.subset closed)

/-- In the shop, users come before the orders that name them as buyers. -/
theorem parents_precede_in_shop :
    ∃ compilation,
      ofExtraction (.ofModulePath "example.com/app") Shop.extraction = .ok compilation ∧
      compilation.hierarchy.AtMostOneParent ∧
      compilation.hierarchy.IsShallow Hierarchy.passCount ∧
      (∀ edge ∈ compilation.hierarchy.edges, edge.1 ∈ compilation.order) ∧
      ["users.User", "shop.eu.Order"].Sublist compilation.order := by
  have hrun : (ofExtraction (.ofModulePath "example.com/app") Shop.extraction).map
      (fun compilation => (compilation.hierarchy.edges, compilation.order)) =
        .ok ([("users.User", "shop.eu.Order")], ["users.User", "shop.eu.Order"]) := by
    rw [ofExtraction_of_inlined Shop.inlineSchema_extraction]
    decide +kernel
  obtain ⟨compilation, hcompiled, hresult⟩ := map_eq_ok_iff.1 hrun
  obtain ⟨hedges, horder⟩ := Prod.mk.inj hresult
  have hsingle : compilation.hierarchy.AtMostOneParent := by
    rw [Hierarchy.atMostOneParent_iff, hedges]
    decide
  have hshallow : compilation.hierarchy.IsShallow Hierarchy.passCount := by
    refine Hierarchy.isShallow_of_levels (fun model => if model = "shop.eu.Order" then 1 else 0)
      (fun model => ?_) ?_
    · show (if model = "shop.eu.Order" then 1 else 0) ≤ 3
      split <;> omega
    · rw [hedges]
      decide
  have hclosed : ∀ edge ∈ compilation.hierarchy.edges, edge.1 ∈ compilation.order := by
    rw [hedges, horder]
    decide
  have hprecede := (parents_precede_iff Shop.extracted hcompiled rfl hsingle hshallow).2 hclosed
    ("users.User", "shop.eu.Order") (by rw [hedges]; decide) (by rw [horder]; decide)
  exact ⟨compilation, hcompiled, hsingle, hshallow, hclosed, hprecede⟩

end Compilation

/-! ## A depot

Its labels belong to its parcels, and its parcels to customers that the workbook does not define.
-/

namespace Depot

/-- The one sheet of the depot. -/
def workbook : Workbook := ⟨[
  ⟨"depot", [
    .ofList [("Model", .text "Parcel"), ("Field", .text "crm.Customer")],
    .ofList [("Model", .text "Label"), ("Field", .text "depot.Parcel")]]⟩]⟩

/-- What the sheet declares. -/
def extraction : Extraction where
  schema := .ofList [
    ("depot", .ofList [("Parcel", .ofList [("crm.Customer", .empty)]),
      ("Label", .ofList [("depot.Parcel", .empty)])])]
  partials := .empty

theorem extracted : Extraction.ofWorkbook workbook = .ok extraction := by rfl

theorem inlineSchema_extraction :
    extraction.partials.inlineSchema extraction.schema = .ok extraction.schema := by cbv

/-- No model of the depot has two parents, and no chain of parents has more than two edges. Still
labels come before the parcels that they belong to. -/
theorem label_precedes_parcel :
    ∃ compilation, Extraction.ofWorkbook workbook = .ok extraction ∧
      Compilation.ofExtraction (.ofModulePath "example.com/depot") extraction = .ok compilation ∧
      compilation.hierarchy.AtMostOneParent ∧
      compilation.hierarchy.IsShallow Hierarchy.passCount ∧
      ("depot.Parcel", "depot.Label") ∈ compilation.hierarchy.edges ∧
      compilation.order = ["depot.Label", "depot.Parcel"] ∧
      ¬ ["depot.Parcel", "depot.Label"].Sublist compilation.order := by
  have hrun : (Compilation.ofExtraction (.ofModulePath "example.com/depot") extraction).map
      (fun compilation => (compilation.hierarchy.edges, compilation.order)) =
        .ok ([("crm.Customer", "depot.Parcel"), ("depot.Parcel", "depot.Label")],
          ["depot.Label", "depot.Parcel"]) := by
    rw [Compilation.ofExtraction_of_inlined inlineSchema_extraction]
    decide +kernel
  obtain ⟨compilation, hcompiled, hresult⟩ := map_eq_ok_iff.1 hrun
  obtain ⟨hedges, horder⟩ := Prod.mk.inj hresult
  refine ⟨compilation, extracted, hcompiled, ?_, ?_, ?_, horder, ?_⟩
  · rw [Hierarchy.atMostOneParent_iff, hedges]
    decide
  · refine Hierarchy.isShallow_of_levels (fun model =>
      if model = "depot.Label" then 2 else if model = "depot.Parcel" then 1 else 0)
      (fun model => ?_) ?_
    · show (if model = "depot.Label" then 2 else if model = "depot.Parcel" then 1 else 0) ≤ 3
      split
      · omega
      · split <;> omega
    · rw [hedges]
      decide
  · rw [hedges]
    decide
  · rw [horder]
    decide

end Depot

end SheetSchema
