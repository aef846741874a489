import SheetSchema.Proofs.Hierarchy.Listing
import SheetSchema.Proofs.Hierarchy.Passes

/-!
# Parts of an order by passes

An order by passes has three parts: the listed models that are nobody's child, the models that the
passes place, each after its only parent, and the rest of the listing. What hangs below a root by
no more steps than there are passes is never left to the rest, and nothing is placed that does not
hang below a root.
-/

namespace SheetSchema.Hierarchy

variable {graph : Hierarchy} {models : List String}

/-- What the roots, the models placed by passes and the rest of an order are. -/
structure PassParts (graph : Hierarchy) (models seeds placed rest : List String) : Prop where
  /-- Every listed model comes once. -/
  once : (seeds ++ placed ++ rest).Perm models.eraseDups
  /-- The seeds are the listed models that are nobody's child. -/
  mem_seeds : ∀ model, model ∈ seeds ↔ model ∈ models ∧ ∀ parent, (parent, model) ∉ graph.edges
  /-- The seeds come as listed. -/
  seeds_listed : seeds.Sublist models.eraseDups
  /-- A placed model has one parent and comes after it. -/
  placed_after : ∀ child ∈ placed, ∃ parent, graph.OnlyParent parent child ∧
    [parent, child].Sublist (seeds ++ placed)
  /-- A placed model hangs below a seed by steps from only parents to listed children. -/
  placed_descends : ∀ model ∈ placed, ∃ steps, graph.Descends models steps model
  /-- The rest comes as listed. -/
  rest_listed : rest.Sublist models.eraseDups
  /-- No model of the rest hangs below a seed by as many steps as there are passes, or fewer. -/
  rest_deep : ∀ model ∈ rest, ∀ steps ≤ passCount, ¬ graph.Descends models steps model

/-- The roots are the listed models that are nobody's child, each at its first place. -/
theorem items_roots (graph : Hierarchy) (models : List String) :
    (graph.roots models).items = models.eraseDups.filter fun model => !graph.hasParent model := by
  rw [roots, OrderedSet.items_ofList_filter, OrderedSet.items_ofList]

theorem mem_roots_iff {model : String} :
    model ∈ (graph.roots models).items ↔
      model ∈ models ∧ ∀ parent, (parent, model) ∉ graph.edges := by
  rw [items_roots, List.mem_filter, List.mem_eraseDups, Bool.not_eq_true', ← Bool.not_eq_true,
    hasParent_iff, not_exists]

theorem perm_boundedPasses (graph : Hierarchy) (models : List String) :
    (graph.boundedPasses models).Perm models.eraseDups :=
  (List.perm_ext_iff_of_nodup (OrderedSet.nodup _) (OrderedSet.nodup_eraseDups models)).2
    fun _ => mem_boundedPasses.trans List.mem_eraseDups.symm

/-- The passes keep the roots in front. -/
theorem prefix_settled (graph : Hierarchy) (models : List String) :
    (graph.roots models).items <+: (graph.settled models).items := by
  rw [settled, passes_eq_iterate]
  exact prefix_iterate_pass _ _ _ _

/-- A model that hangs below a root is a root or has one parent. -/
theorem Descends.onlyParent {steps : ℕ} {model : String}
    (descends : graph.Descends models steps model) (child : model ∉ (graph.roots models).items) :
    ∃ parent, graph.OnlyParent parent model := by
  cases descends with
  | root listed orphan =>
    refine absurd (mem_roots_iff.2 ⟨listed, fun parent hedge => ?_⟩) child
    rw [hasParent_iff.2 ⟨parent, hedge⟩] at orphan
    contradiction
  | under _ only _ => exact ⟨_, only⟩

/-- Behind the roots, the passes place models with one parent, each after it. -/
theorem exists_placed (graph : Hierarchy) (models : List String) :
    ∃ placed, (graph.settled models).items = (graph.roots models).items ++ placed ∧
      ∀ child ∈ placed, (∃ steps, graph.Descends models steps child) ∧
        ∃ parent, graph.OnlyParent parent child ∧
          [parent, child].Sublist (graph.settled models).items := by
  obtain ⟨placed, hplaced⟩ := prefix_settled graph models
  refine ⟨placed, hplaced.symm, fun child hchild => ?_⟩
  have hsettles := settles_settled graph models
  have hmem : child ∈ (graph.settled models).items :=
    hplaced ▸ List.mem_append_right _ hchild
  -- the settled models are without repetitions, so a placed one is no root
  have hnodup : ((graph.roots models).items ++ placed).Nodup :=
    hplaced ▸ (graph.settled models).nodup
  have hroot : child ∉ (graph.roots models).items := fun hroot =>
    (List.nodup_append.1 hnodup).2.2 child hroot child hchild rfl
  obtain ⟨steps, hsteps⟩ := hsettles.descends child hmem
  obtain ⟨parent, honly⟩ := hsteps.onlyParent hroot
  exact ⟨⟨steps, hsteps⟩, parent, honly, hsettles.after child hmem parent honly.edge⟩

/-- Whatever the hierarchy is, an order by passes is the seeds, the models that the passes place and
the rest of the listing, and it is the order that all passes give, also where they end early. -/
theorem boundedPasses_in_parts (graph : Hierarchy) (models : List String) :
    (∃ seeds placed rest, graph.boundedPasses models = seeds ++ placed ++ rest ∧
        graph.PassParts models seeds placed rest) ∧
      graph.boundedPasses models =
        (((pass graph.parents models)^[passCount] (graph.roots models)).insertAll
          models).items := by
  constructor
  · obtain ⟨placed, hsettled, hplaced⟩ := exists_placed graph models
    have horder := boundedPasses_eq graph models
    rw [OrderedSet.items_ofList, hsettled] at horder
    refine ⟨_, placed, _, horder, ?_⟩
    exact {
      once := horder ▸ perm_boundedPasses graph models
      mem_seeds := fun _ => mem_roots_iff
      seeds_listed := items_roots graph models ▸ List.filter_sublist
      placed_after := fun child hchild => hsettled ▸ (hplaced child hchild).2
      placed_descends := fun child hchild => (hplaced child hchild).1
      rest_listed := List.filter_sublist
      rest_deep := by
        intro model hmem steps hle hdescends
        have hthere := OrderedSet.contains_iff.2 (mem_settled_of_descends hdescends hle)
        have habsent := (List.mem_filter.1 hmem).2
        rw [hthere] at habsent
        contradiction }
  · rw [boundedPasses, passes_eq_iterate]

end SheetSchema.Hierarchy
