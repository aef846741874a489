import Mathlib.Data.Fintype.Pigeonhole
import Mathlib.Data.Set.Finite.List
import Mathlib.Logic.Relation
import Mathlib.Order.WellFounded
import SheetSchema.Proofs.Hierarchy.Countdown

/-!
# Parts of a topological order

A topological order has two parts: the models that are put out, each after its listed parents, and
the models that never become ready, as listed. The second part is the models that lie on a cycle of
listed models or below one, so a warning is given exactly if there is a cycle.
-/

namespace SheetSchema.Hierarchy

variable {graph : Hierarchy} {models : List String}

/-! ## Cycles of listed models -/

/-- An edge between two different listed models. -/
structure ListedEdge (graph : Hierarchy) (models : List String) (parent child : String) : Prop where
  edge : (parent, child) ∈ graph.edges
  differ : parent ≠ child
  above : parent ∈ models
  below : child ∈ models

/-- Edges between listed models lead from a model back to it. -/
def OnCycle (graph : Hierarchy) (models : List String) (model : String) : Prop :=
  Relation.TransGen (graph.ListedEdge models) model model

/-- A model is on a cycle or is reached from one. -/
def BelowCycle (graph : Hierarchy) (models : List String) (model : String) : Prop :=
  ∃ other, graph.OnCycle models other ∧
    Relation.ReflTransGen (graph.ListedEdge models) other model

theorem OnCycle.belowCycle {model : String} (cycle : graph.OnCycle models model) :
    graph.BelowCycle models model :=
  ⟨model, cycle, Relation.ReflTransGen.refl⟩

/-- A cycle runs through listed models. -/
theorem OnCycle.listed {model : String} (cycle : graph.OnCycle models model) : model ∈ models := by
  obtain ⟨_, -, hedge⟩ := Relation.TransGen.tail'_iff.1 cycle
  exact hedge.below

/-- Where a model is below a cycle, so is one of its parents. -/
theorem BelowCycle.exists_parent {model : String} (below : graph.BelowCycle models model) :
    ∃ parent, graph.ListedEdge models parent model ∧ graph.BelowCycle models parent := by
  obtain ⟨other, hcycle, hsteps⟩ := below
  rcases Relation.ReflTransGen.cases_tail hsteps with rfl | ⟨parent, hparent, hedge⟩
  · -- on the cycle, the model before this one
    obtain ⟨parent, hparent, hedge⟩ := Relation.TransGen.tail'_iff.1 hcycle
    exact ⟨parent, hedge, model, hcycle, hparent⟩
  · exact ⟨parent, hedge, other, hcycle, hparent⟩

/-- An endless walk from child to parent comes back to a model, since there are finitely many. -/
theorem belowCycle_of_walk {walk : ℕ → String}
    (climbs : ∀ n, graph.ListedEdge models (walk (n + 1)) (walk n)) :
    graph.BelowCycle models (walk 0) := by
  have hsteps : ∀ n more, Relation.ReflTransGen (graph.ListedEdge models) (walk (n + more))
      (walk n) := by
    intro n more
    induction more with
    | zero => exact Relation.ReflTransGen.refl
    | succ more ih => exact Relation.ReflTransGen.head (climbs (n + more)) ih
  have hfinite : Finite { model // model ∈ models } := (List.finite_toSet models).to_subtype
  obtain ⟨first, second, hne, hsame⟩ := Finite.exists_ne_map_eq_of_infinite
    fun n => (⟨walk n, (climbs n).below⟩ : { model // model ∈ models })
  rw [Subtype.mk.injEq] at hsame
  -- the walk from the earlier to the later of the two places is a cycle
  have hcycle : ∀ early late, early < late → walk early = walk late →
      graph.OnCycle models (walk early) := by
    intro early late hlt hback
    obtain ⟨more, rfl⟩ := Nat.exists_eq_add_of_lt hlt
    have hclosed := Relation.TransGen.head' (climbs (early + more)) (hsteps early more)
    rwa [← hback] at hclosed
  rcases Nat.lt_or_gt_of_ne hne with hlt | hgt
  · exact ⟨_, hcycle first second hlt hsame, by simpa using hsteps 0 first⟩
  · exact ⟨_, hcycle second first hgt hsame.symm, by simpa using hsteps 0 second⟩

/-- Climbing from a model comes to an end exactly if the model is not below a cycle. -/
theorem acc_iff_not_belowCycle {model : String} :
    Acc (graph.ListedEdge models) model ↔ ¬ graph.BelowCycle models model := by
  constructor
  · intro hacc
    induction hacc with
    | intro model _ ih =>
      intro hbelow
      obtain ⟨parent, hedge, hparent⟩ := hbelow.exists_parent
      exact ih parent hedge hparent
  · intro hfree
    by_contra hacc
    obtain ⟨walk, rfl, hclimbs⟩ := not_acc_iff_exists_descending_chain.1 hacc
    exact hfree (belowCycle_of_walk hclimbs)

/-! ## What is put out -/

/-- Edges between listed models are those that counts are over. -/
theorem listedEdge_iff {parent child : String} :
    graph.ListedEdge models parent child ↔
      parent ∈ (listedParents (.ofList models) graph.parents child).items ∧ child ∈ models := by
  rw [mem_listedParents_iff, OrderedSet.mem_ofList]
  constructor
  · intro h
    exact ⟨⟨h.differ, h.above, h.edge⟩, h.below⟩
  · intro h
    exact ⟨h.1.2.2, h.1.1, h.1.2.1, h.2⟩

/-- In a list without repetitions, what comes before has the smaller place. -/
theorem idxOf_lt_of_sublist {order : List String} (nodup : order.Nodup) {first second : String}
    (before : [first, second].Sublist order) : order.idxOf first < order.idxOf second := by
  obtain ⟨front, back, rfl, hfirst, hback⟩ := List.cons_sublist_iff.1 before
  have hsecond : second ∉ front := fun hmem =>
    (List.nodup_append.1 nodup).2.2 second hmem second (List.singleton_sublist.1 hback) rfl
  have hplace := List.idxOf_lt_length_of_mem hfirst
  rw [List.idxOf_append_of_mem hfirst, List.idxOf_append_of_notMem hsecond]
  omega

namespace Progress.Sound

variable {progress : Progress}

/-- What is put out stands behind all its listed parents. -/
theorem sublist_of_listedEdge (sound : progress.Sound graph (.ofList models))
    {parent child : String} (edge : graph.ListedEdge models parent child)
    (out : child ∈ progress.sorted.items) : [parent, child].Sublist progress.sorted.items :=
  sound.after child out parent (listedEdge_iff.1 edge).1

/-- Climbing from a model that is put out comes to an end, since it leads to earlier ones. -/
theorem acc_of_mem (sound : progress.Sound graph (.ofList models)) {model : String}
    (out : model ∈ progress.sorted.items) : Acc (graph.ListedEdge models) model := by
  induction hplace : progress.sorted.items.idxOf model using Nat.strong_induction_on
    generalizing model with
  | _ place ih =>
    refine Acc.intro model fun parent hedge => ?_
    have hbefore := sound.sublist_of_listedEdge hedge out
    have hlt := idxOf_lt_of_sublist progress.sorted.nodup hbefore
    exact ih _ (hplace ▸ hlt) (hbefore.subset List.mem_cons_self) rfl

/-- When no model is ready, the models from which climbing comes to an end are put out. -/
theorem mem_of_acc (sound : progress.Sound graph (.ofList models)) (finished : progress.ready = [])
    {model : String} (listed : model ∈ models) (acc : Acc (graph.ListedEdge models) model) :
    model ∈ progress.sorted.items := by
  induction acc with
  | intro model _ ih =>
    have hnone : graph.awaited (.ofList models) progress.sorted model = [] := by
      refine List.eq_nil_iff_forall_not_mem.2 fun parent hmem => ?_
      obtain ⟨hparent, habsent⟩ := mem_awaited_iff.1 hmem
      have hedge := listedEdge_iff.2 ⟨mem_listedParents_iff.2 hparent, listed⟩
      exact habsent (ih parent hedge hedge.above)
    have hmem := (sound.mem_iff model).2 ⟨OrderedSet.mem_ofList.2 listed, hnone⟩
    rwa [finished, List.append_nil] at hmem

/-- When nothing is ready any more, all but what is below a cycle has been put out. -/
theorem mem_sorted_iff (sound : progress.Sound graph (.ofList models))
    (finished : progress.ready = []) {model : String} :
    model ∈ progress.sorted.items ↔ model ∈ models ∧ ¬ graph.BelowCycle models model := by
  rw [← acc_iff_not_belowCycle]
  constructor
  · intro hmem
    exact ⟨OrderedSet.mem_ofList.1 (sound.within.sorted model hmem), sound.acc_of_mem hmem⟩
  · intro h
    exact sound.mem_of_acc finished h.1 h.2

end Progress.Sound

/-! ## The two parts -/

/-- What the models that are put out and the rest of an order are. -/
structure TopologicalParts (graph : Hierarchy) (models front rest : List String) : Prop where
  /-- Every listed model comes once. -/
  once : (front ++ rest).Perm models.eraseDups
  /-- The models in front are neither on a cycle of listed models nor below one. -/
  mem_front : ∀ model, model ∈ front ↔ model ∈ models ∧ ¬ graph.BelowCycle models model
  /-- They come after their listed parents. -/
  front_after : ∀ parent child, graph.ListedEdge models parent child → child ∈ front →
    [parent, child].Sublist front
  /-- The rest comes as listed. -/
  rest_listed : rest.Sublist models.eraseDups
  /-- The rest is named by the warning. -/
  warned : graph.topologicalWarnings models = if rest = [] then [] else [.relationshipCycle rest]
  /-- There is a rest exactly if there is a cycle. -/
  rest_ne_nil_iff : rest ≠ [] ↔ ∃ model, graph.OnCycle models model

/-- The order has every listed model once. -/
theorem perm_topological (graph : Hierarchy) (models : List String) :
    (graph.topological models).Perm models.eraseDups :=
  (List.perm_ext_iff_of_nodup nodup_topological (OrderedSet.nodup_eraseDups models)).2
    fun _ => mem_topological.trans List.mem_eraseDups.symm

theorem topologicalWarnings_eq (graph : Hierarchy) (models : List String) :
    graph.topologicalWarnings models =
      if graph.unsorted models = [] then [] else [.relationshipCycle (graph.unsorted models)] := by
  unfold topologicalWarnings
  split
  · next hnone => rw [if_pos hnone]
  · next hsome => rw [if_neg hsome]

/-- What is put behind is what is below a cycle. -/
theorem mem_unsorted_iff {model : String} :
    model ∈ graph.unsorted models ↔ model ∈ models ∧ graph.BelowCycle models model := by
  obtain ⟨hsound, hover⟩ := Progress.sound_final graph (.ofList models)
  rw [unsorted, List.mem_filter, OrderedSet.mem_ofList, Bool.not_eq_true', ← Bool.not_eq_true,
    OrderedSet.contains_iff, hsound.mem_sorted_iff hover]
  tauto

/-- Something is put behind exactly if there is a cycle. -/
theorem unsorted_ne_nil_iff : graph.unsorted models ≠ [] ↔ ∃ model, graph.OnCycle models model := by
  constructor
  · intro hsome
    obtain ⟨model, hmem⟩ := List.exists_mem_of_ne_nil _ hsome
    obtain ⟨other, hcycle, -⟩ := (mem_unsorted_iff.1 hmem).2
    exact ⟨other, hcycle⟩
  · intro h
    obtain ⟨model, hcycle⟩ := h
    exact List.ne_nil_of_mem (mem_unsorted_iff.2 ⟨hcycle.listed, hcycle.belowCycle⟩)

/-- Whatever the hierarchy is, a topological order is the models that are not below a cycle, each
after its parents, and the rest as listed, which is what the warning names. Without a cycle every
parent comes before its children. -/
theorem topological_in_parts (graph : Hierarchy) (models : List String) :
    (∃ front rest, graph.topological models = front ++ rest ∧
        graph.TopologicalParts models front rest) ∧
      ((¬ ∃ model, graph.OnCycle models model) → ∀ parent child,
        graph.ListedEdge models parent child →
          [parent, child].Sublist (graph.topological models)) := by
  obtain ⟨hsound, hover⟩ := Progress.sound_final graph (.ofList models)
  have hparts : graph.TopologicalParts models
      (Progress.final graph (.ofList models)).sorted.items (graph.unsorted models) := {
    once := perm_topological graph models
    mem_front := fun _ => hsound.mem_sorted_iff hover
    front_after := fun _ _ hedge hchild => hsound.sublist_of_listedEdge hedge hchild
    rest_listed := by
      rw [← OrderedSet.items_ofList]
      exact List.filter_sublist
    warned := topologicalWarnings_eq graph models
    rest_ne_nil_iff := unsorted_ne_nil_iff }
  refine ⟨⟨_, _, rfl, hparts⟩, fun hfree parent child hedge => ?_⟩
  -- without a cycle nothing is below one, so the child is put out
  have hchild := (hparts.mem_front child).2
    ⟨hedge.below, fun ⟨other, hcycle, _⟩ => hfree ⟨other, hcycle⟩⟩
  exact (hparts.front_after parent child hedge hchild).trans (List.sublist_append_left _ _)

end SheetSchema.Hierarchy
