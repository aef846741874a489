import Mathlib.Data.List.Perm.Subperm
import SheetSchema.Proofs.Hierarchy.Listing
import SheetSchema.Proofs.Hierarchy.Parents

/-!
# Counting down parents

The topological order keeps a count for every listed model. The count is always the number of its
listed parents that are still to be put out, so a model is ready when the last of them is put out,
it becomes ready once, and as many steps as there are listed models are enough to leave no model
ready.
-/

namespace SheetSchema.Hierarchy

variable {graph : Hierarchy} {known sorted : OrderedSet}

/-! ## Parents and children -/

/-- The parents that a count is over: known ones, the model itself left out. -/
theorem mem_listedParents_iff {model parent : String} :
    parent ∈ (listedParents known graph.parents model).items ↔
      parent ≠ model ∧ parent ∈ known.items ∧ (parent, model) ∈ graph.edges := by
  have hparents : parent ∈ (graph.parents.get? model).getD [] ↔ (parent, model) ∈ graph.edges := by
    rw [get?_parents, ← mem_parentsIn_iff]
    split
    · next hnone => rw [hnone, Option.getD_none]
    · rw [Option.getD_some]
  rw [listedParents, OrderedSet.mem_ofList, List.mem_filter, Bool.and_eq_true, hparents,
    OrderedSet.contains_iff, bne_iff_ne, and_comm, and_assoc]

/-- Listed parents of a model that are still to be put out. -/
def awaited (graph : Hierarchy) (known sorted : OrderedSet) (model : String) : List String :=
  (listedParents known graph.parents model).items.filter fun parent => !sorted.contains parent

theorem nodup_awaited (graph : Hierarchy) (known sorted : OrderedSet) (model : String) :
    (graph.awaited known sorted model).Nodup :=
  (OrderedSet.nodup _).filter _

/-- A parent is awaited as long as it is not put out. -/
theorem mem_awaited_iff {model parent : String} :
    parent ∈ graph.awaited known sorted model ↔
      (parent ≠ model ∧ parent ∈ known.items ∧ (parent, model) ∈ graph.edges) ∧
        parent ∉ sorted.items := by
  rw [awaited, List.mem_filter, mem_listedParents_iff, Bool.not_eq_true', ← Bool.not_eq_true,
    OrderedSet.contains_iff]

/-- Putting a model out takes it from what its children wait for. -/
theorem awaited_insert (graph : Hierarchy) (known sorted : OrderedSet) (model other : String) :
    graph.awaited known (sorted.insert model) other =
      (graph.awaited known sorted other).erase model := by
  rw [(nodup_awaited graph known sorted other).erase_eq_filter, awaited, awaited,
    List.filter_filter]
  refine List.filter_congr fun parent _ => ?_
  rw [Bool.eq_iff_iff, Bool.and_eq_true, Bool.not_eq_true', Bool.not_eq_true', bne_iff_ne,
    ← Bool.not_eq_true, ← Bool.not_eq_true, OrderedSet.contains_iff, OrderedSet.contains_iff,
    OrderedSet.mem_insert, not_or, and_comm]

/-- Children of a model, if there are any. -/
def childrenOf (graph : Hierarchy) (model : String) : List String :=
  ((graph.children? model).map OrderedSet.items).getD []

/-- Children are the models that an edge leads to. -/
theorem mem_childrenOf_iff {model child : String} :
    child ∈ graph.childrenOf model ↔ (model, child) ∈ graph.edges := by
  rw [mem_edges_iff, childrenOf, children?]
  cases graph.get? model with
  | none => simp
  | some children => simp

/-- A child is recorded once, so putting out a model counts it down once. -/
theorem nodup_childrenOf (graph : Hierarchy) (model : String) :
    (graph.childrenOf model).Nodup := by
  unfold childrenOf
  cases graph.children? model with
  | none => exact List.nodup_nil
  | some children => exact children.nodup

namespace Progress

variable {progress : Progress} {model : String}

/-! ## Releasing children -/

/-- Whether counting a child down makes it ready. -/
def frees (degrees : OrderedMap Nat) (model child : String) : Bool :=
  child != model && (degrees.get? child).map (· - 1) == some 0

theorem sorted_release (progress : Progress) (model child : String) :
    (progress.release model child).sorted = progress.sorted := by
  unfold release
  split
  · rfl
  · split <;> rfl

/-- Only the child is counted down, and only if it is listed and not the model itself. -/
theorem get?_degrees_release (progress : Progress) (model child other : String) :
    (progress.release model child).degrees.get? other =
      if other = child ∧ other ≠ model then (progress.degrees.get? other).map (· - 1)
      else progress.degrees.get? other := by
  unfold release
  by_cases hself : child = model
  · have hother : ¬ (other = child ∧ other ≠ model) := fun h => h.2 (h.1.trans hself)
    rw [if_pos hself, if_neg hother]
  · rw [if_neg hself]
    by_cases hother : other = child
    · subst hother
      rw [if_pos ⟨rfl, hself⟩]
      cases hdegree : progress.degrees.get? other with
      | none => simpa using hdegree
      | some degree => simp [OrderedMap.get?_insert]
    · rw [if_neg fun h => hother h.1]
      split
      · rfl
      · exact (OrderedMap.get?_insert _ _ _ _).trans (if_neg hother)

/-- A child becomes ready where its count falls to zero. -/
theorem ready_release (progress : Progress) (model child : String) :
    (progress.release model child).ready =
      progress.ready ++ [child].filter (frees progress.degrees model) := by
  unfold release
  by_cases hself : child = model
  · simp [hself, frees]
  · rw [if_neg hself]
    cases hdegree : progress.degrees.get? child with
    | none => simp [frees, hdegree]
    | some degree =>
      by_cases hzero : degree - 1 = 0
      · simp [frees, hself, hdegree, hzero]
      · simp [frees, hself, hdegree, hzero]

/-- Releasing one child does not decide whether another becomes ready. -/
theorem frees_release {child other : String} (differ : other ≠ child) :
    frees (progress.release model child).degrees model other =
      frees progress.degrees model other := by
  rw [frees, get?_degrees_release, if_neg fun h => differ h.1, frees]

/-- Counting down puts out nothing. -/
theorem sorted_foldl_release (children : List String) (progress : Progress) (model : String) :
    (children.foldl (release model) progress).sorted = progress.sorted := by
  induction children generalizing progress with
  | nil => rfl
  | cons child rest ih => rw [List.foldl_cons, ih, sorted_release]

/-- All children are counted down by one. -/
theorem get?_degrees_foldl_release {children : List String} (nodup : children.Nodup)
    (progress : Progress) (model other : String) :
    (children.foldl (release model) progress).degrees.get? other =
      if other ∈ children ∧ other ≠ model then (progress.degrees.get? other).map (· - 1)
      else progress.degrees.get? other := by
  induction children generalizing progress with
  | nil => simp
  | cons child rest ih =>
    obtain ⟨hfresh, hrest⟩ := List.nodup_cons.1 nodup
    rw [List.foldl_cons, ih hrest, get?_degrees_release]
    by_cases hchild : other = child
    · -- the child does not come again, so it is not counted down twice
      subst hchild
      simp [hfresh]
    · simp [hchild]

/-- The children that wait for nothing else become ready, in their order. -/
theorem ready_foldl_release {children : List String} (nodup : children.Nodup)
    (progress : Progress) (model : String) :
    (children.foldl (release model) progress).ready =
      progress.ready ++ children.filter (frees progress.degrees model) := by
  induction children generalizing progress with
  | nil => simp
  | cons child rest ih =>
    obtain ⟨hfresh, hrest⟩ := List.nodup_cons.1 nodup
    have hsame : rest.filter (frees (progress.release model child).degrees model) =
        rest.filter (frees progress.degrees model) := by
      refine List.filter_congr fun other hother => frees_release ?_
      rintro rfl
      exact hfresh hother
    rw [List.foldl_cons, ih hrest, ready_release, hsame, List.append_assoc, ← List.filter_append,
      List.singleton_append]

/-- Putting a model out is releasing its children. -/
theorem putOut_of_notMem (graph : Hierarchy) (fresh : model ∉ progress.sorted.items) :
    progress.putOut graph model =
      (graph.childrenOf model).foldl (release model)
        { progress with sorted := progress.sorted.insert model } := by
  have hcontains : progress.sorted.contains model = false := by
    rw [← Bool.not_eq_true, OrderedSet.contains_iff]
    exact fresh
  unfold putOut childrenOf
  rw [hcontains]
  cases graph.children? model with
  | none => rfl
  | some children => rfl

section

variable (graph) (fresh : model ∉ progress.sorted.items)

include fresh

theorem sorted_putOut :
    (progress.putOut graph model).sorted = progress.sorted.insert model := by
  rw [putOut_of_notMem graph fresh, sorted_foldl_release]

/-- Putting out a model makes ready what its children are freed by. -/
theorem ready_putOut :
    (progress.putOut graph model).ready =
      progress.ready ++ (graph.childrenOf model).filter (frees progress.degrees model) := by
  rw [putOut_of_notMem graph fresh, ready_foldl_release (nodup_childrenOf graph model)]

/-- Putting out a model takes one from the count of every child of it. -/
theorem get?_degrees_putOut (other : String) :
    (progress.putOut graph model).degrees.get? other =
      if other ∈ graph.childrenOf model ∧ other ≠ model then
        (progress.degrees.get? other).map (· - 1)
      else progress.degrees.get? other := by
  rw [putOut_of_notMem graph fresh, get?_degrees_foldl_release (nodup_childrenOf graph model)]

end

/-! ## Counts are right -/

/-- Counts, ready models and put out models fit together. -/
structure Sound (graph : Hierarchy) (known : OrderedSet) (progress : Progress) : Prop where
  within : progress.Known known
  /-- A count is the number of listed parents that are still to be put out. -/
  degrees : ∀ model ∈ known.items, progress.degrees.get? model =
    some (graph.awaited known progress.sorted model).length
  /-- No model is ready twice, or ready after it was put out. -/
  nodup : (progress.sorted.items ++ progress.ready).Nodup
  /-- The models that wait for no parent are put out or ready. -/
  mem_iff : ∀ model, model ∈ progress.sorted.items ++ progress.ready ↔
    model ∈ known.items ∧ graph.awaited known progress.sorted model = []
  /-- A model is put out after its listed parents. -/
  after : ∀ child ∈ progress.sorted.items,
    ∀ parent ∈ (listedParents known graph.parents child).items,
      [parent, child].Sublist progress.sorted.items

/-- At the start every count is the number of parents, and none is put out. -/
theorem sound_start (graph : Hierarchy) (known : OrderedSet) :
    (start graph known).Sound graph known := by
  have hawaited : ∀ model, graph.awaited known (start graph known).sorted model =
      (listedParents known graph.parents model).items := by
    intro model
    refine List.filter_eq_self.2 fun parent _ => ?_
    rfl
  have hdegrees : ∀ model ∈ known.items, (start graph known).degrees.get? model =
      some (listedParents known graph.parents model).items.length := by
    intro model hmodel
    refine OrderedMap.get?_ofList_of_unique (List.mem_map.2 ⟨model, hmodel, rfl⟩) ?_
    intro other hother
    obtain ⟨_, _, heq⟩ := List.mem_map.1 hother
    obtain ⟨rfl, rfl⟩ := Prod.mk.inj heq
    rfl
  have hwithin : (start graph known).Known known := known_start known
  refine ⟨hwithin, ?_, ?_, ?_, ?_⟩
  · intro model hmodel
    rw [hdegrees model hmodel, hawaited]
  · exact (OrderedMap.filter _ _).nodup_keys
  · intro model
    rw [hawaited]
    show model ∈ ((start graph known).degrees.filter fun _ degree => degree == 0).keys ↔ _
    rw [OrderedMap.mem_keys_filter_iff]
    constructor
    · intro h
      obtain ⟨degree, hdegree, hzero⟩ := h
      have hmodel : model ∈ known.items :=
        hwithin.degrees model (OrderedMap.mem_keys_of_get? hdegree)
      rw [hdegrees model hmodel, Option.some.injEq] at hdegree
      rw [← hdegree, beq_iff_eq] at hzero
      exact ⟨hmodel, List.length_eq_zero_iff.1 hzero⟩
    · intro h
      obtain ⟨hmodel, hnone⟩ := h
      exact ⟨0, by rw [hdegrees model hmodel, hnone, List.length_nil], rfl⟩
  · intro child hmem
    simp [start, OrderedSet.empty] at hmem

/-! ## Putting a model out -/

/-- Children of a listed model wait for it until it is put out. -/
theorem mem_awaited_iff_mem_childrenOf (listed : model ∈ known.items) (fresh : model ∉ sorted.items)
    {other : String} :
    model ∈ graph.awaited known sorted other ↔ other ∈ graph.childrenOf model ∧ other ≠ model := by
  rw [mem_awaited_iff, mem_childrenOf_iff]
  constructor
  · intro h
    exact ⟨h.1.2.2, h.1.1.symm⟩
  · intro h
    exact ⟨⟨h.2.symm, listed, h.1⟩, fresh⟩

/-- The children that become ready are those that wait for this model only. -/
theorem Sound.mem_freed_iff (sound : progress.Sound graph known) (listed : model ∈ known.items)
    (fresh : model ∉ progress.sorted.items) {other : String} :
    other ∈ (graph.childrenOf model).filter (frees progress.degrees model) ↔
      other ∈ known.items ∧ graph.awaited known progress.sorted other = [model] := by
  rw [List.mem_filter, frees, Bool.and_eq_true, bne_iff_ne, beq_iff_eq, ← and_assoc,
    ← mem_awaited_iff_mem_childrenOf listed fresh]
  constructor
  · intro h
    obtain ⟨hwaits, hzero⟩ := h
    obtain ⟨degree, hdegree, hzero⟩ := Option.map_eq_some_iff.1 hzero
    have hother : other ∈ known.items :=
      sound.within.degrees other (OrderedMap.mem_keys_of_get? hdegree)
    rw [sound.degrees other hother, Option.some.injEq] at hdegree
    -- the count that goes down to zero was one, since this model is among those it counts
    have hpos : 0 < (graph.awaited known progress.sorted other).length :=
      List.length_pos_of_mem hwaits
    have hone : (graph.awaited known progress.sorted other).length = 1 := by omega
    obtain ⟨parent, hparent⟩ := List.length_eq_one_iff.1 hone
    rw [hparent, List.mem_singleton] at hwaits
    exact ⟨hother, by rw [hparent, hwaits]⟩
  · intro h
    obtain ⟨hother, hwaits⟩ := h
    exact ⟨by rw [hwaits]; exact List.mem_singleton_self _,
      by rw [sound.degrees other hother, hwaits]; rfl⟩

/-- A model that is ready was not put out. -/
theorem Sound.fresh {ready : List String} (sound : progress.Sound graph known)
    (front : progress.ready = model :: ready) :
    model ∉ ({ progress with ready } : Progress).sorted.items := by
  have hnodup := sound.nodup
  rw [front] at hnodup
  intro hmem
  exact (List.nodup_append.1 hnodup).2.2 model hmem model List.mem_cons_self rfl

/-- All listed parents of a model that is ready are put out. -/
theorem Sound.parent_out (sound : progress.Sound graph known) {child parent : String}
    (ready : child ∈ progress.ready)
    (above : parent ∈ (listedParents known graph.parents child).items) :
    parent ∈ progress.sorted.items := by
  by_contra habsent
  have hwaits : parent ∈ graph.awaited known progress.sorted child :=
    mem_awaited_iff.2 ⟨mem_listedParents_iff.1 above, habsent⟩
  rw [((sound.mem_iff child).1 (List.mem_append_right _ ready)).2] at hwaits
  contradiction

/-- Putting out the model at the front only adds to the models that are put out or ready. -/
theorem Sound.items_putOut {ready : List String} (sound : progress.Sound graph known)
    (front : progress.ready = model :: ready) :
    let next := ({ progress with ready } : Progress).putOut graph model
    next.sorted.items = progress.sorted.items ++ [model] ∧
      next.sorted.items ++ next.ready = (progress.sorted.items ++ progress.ready) ++
        (graph.childrenOf model).filter (frees progress.degrees model) := by
  intro next
  have hfresh := sound.fresh front
  have hitems : next.sorted.items = progress.sorted.items ++ [model] := by
    rw [sorted_putOut graph hfresh]
    exact OrderedSet.items_insert_of_notMem hfresh
  refine ⟨hitems, ?_⟩
  rw [hitems, ready_putOut graph hfresh, front]
  simp

/-- Putting out the model at the front keeps the counts right. -/
theorem sound_putOut {ready : List String} (sound : progress.Sound graph known)
    (front : progress.ready = model :: ready) :
    (({ progress with ready } : Progress).putOut graph model).Sound graph known := by
  have hmem : model ∈ progress.ready := by simp [front]
  have hlisted : model ∈ known.items := sound.within.ready model hmem
  have hfresh := sound.fresh front
  have hsorted := sorted_putOut graph hfresh
  have hdegrees := get?_degrees_putOut graph hfresh
  obtain ⟨hitems, hlist⟩ := sound.items_putOut front
  have hwithin : (({ progress with ready } : Progress).putOut graph model).Known known := by
    refine known_putOut ⟨sound.within.degrees, ?_, sound.within.sorted⟩ hlisted
    intro other hother
    exact sound.within.ready other (by rw [front]; exact List.mem_cons_of_mem _ hother)
  generalize ({ progress with ready } : Progress).putOut graph model = next at *
  have hawaited : ∀ other, graph.awaited known next.sorted other =
      (graph.awaited known progress.sorted other).erase model := by
    intro other
    rw [hsorted]
    exact awaited_insert graph known progress.sorted model other
  refine ⟨hwithin, ?_, ?_, ?_, ?_⟩
  · intro other hother
    rw [hdegrees, hawaited, List.length_erase]
    simp only [mem_awaited_iff_mem_childrenOf hlisted hfresh, sound.degrees other hother]
    split <;> rfl
  · -- what becomes ready waited for the model, and what was put out or ready waited for nothing
    rw [hlist]
    refine List.nodup_append.2 ⟨sound.nodup, (nodup_childrenOf graph model).filter _, ?_⟩
    rintro first hfirst _ hsecond rfl
    have hempty := ((sound.mem_iff first).1 hfirst).2
    rw [((sound.mem_freed_iff hlisted hfresh).1 hsecond).2] at hempty
    exact List.cons_ne_nil _ _ hempty
  · intro other
    rw [hlist, List.mem_append, sound.mem_iff, sound.mem_freed_iff hlisted hfresh, ← and_or_left,
      hawaited, List.erase_eq_nil_iff]
  · intro child hchild parent hparent
    rw [hitems] at hchild ⊢
    rcases List.mem_append.1 hchild with hold | hlast
    · exact (sound.after child hold parent hparent).trans (List.sublist_append_left _ _)
    · obtain rfl := List.mem_singleton.1 hlast
      exact (List.singleton_sublist.2 (sound.parent_out hmem hparent)).append
        (List.Sublist.refl [child])

/-- The step that takes the model at the front. -/
theorem length_sorted_putOut {ready : List String} (sound : progress.Sound graph known)
    (front : progress.ready = model :: ready) :
    (({ progress with ready } : Progress).putOut graph model).sorted.items.length =
      progress.sorted.items.length + 1 := by
  rw [(sound.items_putOut front).1, List.length_append, List.length_singleton]

/-- No more models are put out or ready than are listed. -/
theorem Sound.length_le (sound : progress.Sound graph known) :
    progress.sorted.items.length + progress.ready.length ≤ known.items.length := by
  rw [← List.length_append]
  refine (List.subperm_of_subset sound.nodup fun other hother => ?_).length_le
  exact ((sound.mem_iff other).1 hother).1

/-! ## Whole runs -/

/-- A run ends when nothing is ready. -/
theorem run_of_ready_nil (fuel : Nat) (idle : progress.ready = []) :
    run graph fuel progress = progress := by
  cases fuel with
  | zero => rfl
  | succ fuel =>
    rw [run]
    simp only [idle]

/-- One step of a run puts out the model at the front. -/
theorem run_succ_of_ready_cons {ready : List String} (fuel : Nat)
    (front : progress.ready = model :: ready) :
    run graph (fuel + 1) progress =
      run graph fuel (({ progress with ready } : Progress).putOut graph model) := by
  rw [run]
  simp only [front]

/-- A run keeps the counts right. -/
theorem sound_run (fuel : Nat) (sound : progress.Sound graph known) :
    (run graph fuel progress).Sound graph known := by
  induction fuel generalizing progress with
  | zero => exact sound
  | succ fuel ih =>
    cases hready : progress.ready with
    | nil => rwa [run_of_ready_nil _ hready]
    | cons model ready =>
      rw [run_succ_of_ready_cons fuel hready]
      exact ih (sound_putOut sound hready)

/-- With a step for every listed model that is not put out, a run leaves no model ready. -/
theorem ready_run {fuel : Nat} (sound : progress.Sound graph known)
    (enough : known.items.length ≤ progress.sorted.items.length + fuel) :
    (run graph fuel progress).ready = [] := by
  induction fuel generalizing progress with
  | zero =>
    have hle := sound.length_le
    have hnone : progress.ready.length = 0 := by omega
    exact List.length_eq_zero_iff.1 hnone
  | succ fuel ih =>
    cases hready : progress.ready with
    | nil => rwa [run_of_ready_nil _ hready]
    | cons model ready =>
      have hlength := length_sorted_putOut sound hready
      rw [run_succ_of_ready_cons fuel hready]
      exact ih (sound_putOut sound hready) (by omega)

/-- A whole run keeps the invariant, and its fuel lasts until nothing is ready. -/
theorem sound_final (graph : Hierarchy) (known : OrderedSet) :
    (final graph known).Sound graph known ∧ (final graph known).ready = [] :=
  ⟨sound_run _ (sound_start graph known), ready_run (sound_start graph known) (by omega)⟩

end Progress

end SheetSchema.Hierarchy
