import SheetSchema.Hierarchy.Order
import SheetSchema.Proofs.OrderedMap

/-!
# Orders list every model once

Whatever the relationships are, cycles and undefined models included, both strategies put out
every listed model exactly once and nothing else.
-/

namespace SheetSchema.Hierarchy

variable {graph : Hierarchy} {models : List String}

/-! ## Passes -/

/-- All placed models are listed. -/
def Within (models : List String) (placed : OrderedSet) : Prop :=
  ∀ model ∈ placed.items, model ∈ models

/-- A pass starts from listed models. -/
theorem within_roots : Within models (graph.roots models) := by
  intro model hmem
  rw [roots, OrderedSet.mem_ofList] at hmem
  exact (List.mem_filter.1 hmem).1

/-- Placing a listed model keeps to the listing. -/
theorem within_placeNext {parents : OrderedMap (List String)} {placed : OrderedSet}
    {model : String} (start : Within models placed) (listed : model ∈ models) :
    Within models (placeNext parents placed model) := by
  unfold placeNext
  split
  · -- only the visited model is added
    intro other hmem
    rcases OrderedSet.mem_insert.1 hmem with hold | rfl
    · exact start other hold
    · exact listed
  · exact start

/-- One pass places listed models only. -/
theorem within_foldl_placeNext {parents : OrderedMap (List String)} {placed : OrderedSet}
    {visited : List String} (start : Within models placed) (listed : visited ⊆ models) :
    Within models (visited.foldl (placeNext parents) placed) := by
  refine List.foldlRecOn visited (placeNext parents) start ?_
  intro placed hplaced model hmem
  exact within_placeNext hplaced (listed hmem)

/-- Any number of passes places listed models only. -/
theorem within_passes {parents : OrderedMap (List String)} {placed : OrderedSet} (count : Nat)
    (start : Within models placed) : Within models (passes parents models count placed) := by
  induction count generalizing placed with
  | zero => exact start
  | succ count ih =>
    rw [passes]
    split
    · exact start
    · exact ih (within_foldl_placeNext start (List.Subset.refl models))

/-- What the passes leave is put behind, so the order has all that is listed. -/
theorem mem_boundedPasses {model : String} :
    model ∈ graph.boundedPasses models ↔ model ∈ models := by
  unfold boundedPasses
  rw [OrderedSet.mem_insertAll]
  constructor
  · intro h
    rcases h with hplaced | hmem
    · exact within_passes passCount within_roots model hplaced
    · exact hmem
  · exact Or.inr

/-! ## Topological order -/

/-- Every model that counts, waits or is put out is known. -/
structure Progress.Known (known : OrderedSet) (progress : Progress) : Prop where
  degrees : ∀ model ∈ progress.degrees.keys, model ∈ known.items
  ready : ∀ model ∈ progress.ready, model ∈ known.items
  sorted : ∀ model ∈ progress.sorted.items, model ∈ known.items

/-- Counts are set up for listed models only. -/
theorem Progress.known_start (known : OrderedSet) : (Progress.start graph known).Known known := by
  have hdegrees : ∀ model ∈ (Progress.start graph known).degrees.keys, model ∈ known.items := by
    intro model hmem
    have hlisted := OrderedMap.mem_keys_ofList.1 hmem
    simpa [List.map_map, Function.comp_def] using hlisted
  refine ⟨hdegrees, ?_, ?_⟩
  · intro model hmem
    exact hdegrees model ((List.filter_sublist.map Prod.fst).subset hmem)
  · intro model hmem
    simp [Progress.start, OrderedSet.empty] at hmem

/-- Counting down one child. -/
theorem Progress.known_release {known : OrderedSet} {progress : Progress} {model child : String}
    (start : progress.Known known) : (progress.release model child).Known known := by
  unfold Progress.release
  split
  · exact start
  · split
    · exact start
    · next degree hdegree =>
      -- only a model that has a count is counted down, and those are known
      have hchild : child ∈ known.items :=
        start.degrees child (OrderedMap.mem_keys_of_get? hdegree)
      refine ⟨?_, ?_, start.sorted⟩
      · intro other hmem
        rcases OrderedMap.mem_keys_insert.1 hmem with rfl | hold
        · exact hchild
        · exact start.degrees other hold
      · intro other hmem
        simp only at hmem
        split at hmem
        · rcases List.mem_append.1 hmem with hold | hnew
          · exact start.ready other hold
          · exact List.mem_singleton.1 hnew ▸ hchild
        · exact start.ready other hmem

/-- Counting down children brings in no new model. -/
theorem Progress.known_foldl_release {known : OrderedSet} {progress : Progress} {model : String}
    {children : List String} (start : progress.Known known) :
    (children.foldl (Progress.release model) progress).Known known := by
  refine List.foldlRecOn children (Progress.release model) start ?_
  intro progress hprogress child _
  exact Progress.known_release hprogress

/-- Putting out one model. -/
theorem Progress.known_putOut {known : OrderedSet} {progress : Progress} {model : String}
    (start : progress.Known known) (hmodel : model ∈ known.items) :
    (progress.putOut graph model).Known known := by
  unfold Progress.putOut
  split
  · exact start
  · have hsorted : ({ progress with sorted := progress.sorted.insert model } : Progress).Known
        known := by
      refine ⟨start.degrees, start.ready, ?_⟩
      intro other hmem
      rcases OrderedSet.mem_insert.1 hmem with hold | rfl
      · exact start.sorted other hold
      · exact hmodel
    simp only
    split
    · exact hsorted
    · exact Progress.known_foldl_release hsorted

/-- A run keeps to the models that it starts from. -/
theorem Progress.known_run {known : OrderedSet} {progress : Progress} (fuel : Nat)
    (start : progress.Known known) : (Progress.run graph fuel progress).Known known := by
  induction fuel generalizing progress with
  | zero => exact start
  | succ fuel ih =>
    unfold Progress.run
    split
    · exact start
    · next model ready hready =>
      -- the model at the front was ready, and those behind it still are
      have hmodel : model ∈ known.items := start.ready model (by rw [hready]; simp)
      have hrest : ({ progress with ready } : Progress).Known known := by
        refine ⟨start.degrees, ?_, start.sorted⟩
        intro other hmem
        exact start.ready other (by rw [hready]; exact List.mem_cons_of_mem _ hmem)
      exact ih (Progress.known_putOut hrest hmodel)

theorem Progress.known_final (known : OrderedSet) : (Progress.final graph known).Known known :=
  Progress.known_run _ (Progress.known_start known)

/-- What is not sorted is put behind, so this order has all that is listed, too. -/
theorem mem_topological {model : String} :
    model ∈ graph.topological models ↔ model ∈ models := by
  unfold topological unsorted
  rw [List.mem_append, List.mem_filter, OrderedSet.mem_ofList]
  constructor
  · intro h
    rcases h with hsorted | ⟨hmem, _⟩
    · exact OrderedSet.mem_ofList.1 ((Progress.known_final _).sorted model hsorted)
    · exact hmem
  · intro hmem
    by_cases h : model ∈ (Progress.final graph (.ofList models)).sorted.items
    · exact Or.inl h
    · refine Or.inr ⟨hmem, ?_⟩
      rw [← OrderedSet.contains_iff] at h
      simpa using h

/-- No model is sorted and put behind. -/
theorem nodup_topological : (graph.topological models).Nodup := by
  unfold topological unsorted
  rw [List.nodup_append]
  refine ⟨OrderedSet.nodup _, (OrderedSet.nodup _).filter _, ?_⟩
  -- what follows the sorted models is the rest of the listing
  intro first hfirst second hsecond same
  have habsent := (List.mem_filter.1 hsecond).2
  rw [← same, OrderedSet.contains_iff.2 hfirst] at habsent
  simp at habsent

/-! ## Both strategies -/

/-- An order has the models of the listing, whatever the strategy. -/
theorem mem_inOrder {strategy : OrderStrategy} {model : String} :
    model ∈ graph.inOrder strategy models ↔ model ∈ models := by
  cases strategy with
  | boundedPasses => exact mem_boundedPasses
  | topological => exact mem_topological

/-- No strategy takes a model up twice. -/
theorem nodup_inOrder (strategy : OrderStrategy) : (graph.inOrder strategy models).Nodup := by
  cases strategy with
  | boundedPasses => exact OrderedSet.nodup _
  | topological => exact nodup_topological

end SheetSchema.Hierarchy
