import Mathlib.Data.List.Chain
import SheetSchema.Hierarchy.Passes
import SheetSchema.Proofs.Hierarchy.Parents

/-!
# What the passes place

The passes place the models that hang below a listed root by a chain of only parents that is no
longer than there are passes, each of them after its parent. All other models follow as listed. So
where models have at most one parent and no chain of parents is too long, a parent comes before its
child unless its chain of parents leads out of the listed models.
-/

namespace SheetSchema.Hierarchy

variable {graph : Hierarchy} {models : List String} {placed : OrderedSet}

/-- A model lies so many steps below a listed model that is nobody's child, every step leading from
an only parent to a listed child. -/
inductive Descends (graph : Hierarchy) (models : List String) : ℕ → String → Prop where
  | root {model : String} (listed : model ∈ models) (orphan : graph.hasParent model = false) :
      Descends graph models 0 model
  | under {steps : ℕ} {parent child : String} (above : Descends graph models steps parent)
      (only : graph.OnlyParent parent child) (listed : child ∈ models) :
      Descends graph models (steps + 1) child

/-- Only listed models descend. -/
theorem Descends.listed {steps : ℕ} {model : String}
    (descends : graph.Descends models steps model) : model ∈ models := by
  cases descends with
  | root listed _ => exact listed
  | under _ _ listed => exact listed

/-- A model follows the placed ones if its only parent is one of them. -/
theorem followsPlaced_iff {model : String} :
    followsPlaced graph.parents placed model = true ↔
      ∃ parent ∈ placed.items, graph.OnlyParent parent model := by
  unfold followsPlaced
  constructor
  · intro h
    split at h
    · next parent hparent =>
      exact ⟨parent, OrderedSet.contains_iff.1 h, get?_parents_eq_singleton_iff.1 hparent⟩
    · contradiction
  · intro h
    obtain ⟨parent, hplaced, honly⟩ := h
    rw [get?_parents_eq_singleton_iff.2 honly]
    exact OrderedSet.contains_iff.2 hplaced

/-! ## Passes only add -/

/-- Placing a model takes none away. -/
theorem prefix_placeNext (parents : OrderedMap (List String)) (placed : OrderedSet)
    (model : String) : placed.items <+: (placeNext parents placed model).items := by
  unfold placeNext
  split
  · rw [OrderedSet.items_insert]
    split
    · exact List.prefix_refl _
    · exact List.prefix_append _ _
  · exact List.prefix_refl _

/-- A pass puts new models behind those that are placed. -/
theorem prefix_pass (parents : OrderedMap (List String)) (models : List String)
    (placed : OrderedSet) : placed.items <+: (pass parents models placed).items := by
  unfold pass
  induction models generalizing placed with
  | nil => exact List.prefix_refl _
  | cons model rest ih => exact (prefix_placeNext parents placed model).trans (ih _)

/-- Models that are placed stay in front through any number of passes. -/
theorem prefix_iterate_pass (parents : OrderedMap (List String)) (models : List String)
    (count : ℕ) (placed : OrderedSet) :
    placed.items <+: ((pass parents models)^[count] placed).items := by
  induction count generalizing placed with
  | zero => exact List.prefix_refl _
  | succ count ih => exact (prefix_pass parents models placed).trans (ih _)

/-- A pass that places no model leaves nothing to do for the passes after it. -/
theorem passes_eq_iterate (parents : OrderedMap (List String)) (models : List String)
    (count : ℕ) (placed : OrderedSet) :
    passes parents models count placed = (pass parents models)^[count] placed := by
  induction count generalizing placed with
  | zero => rfl
  | succ count ih =>
    rw [passes]
    split
    · next hfixed => exact (Function.iterate_fixed hfixed (count + 1)).symm
    · rw [ih, Function.iterate_succ_apply]

/-! ## Which models are placed -/

/-- A pass places the listed models whose only parent is placed. -/
theorem mem_pass {parent child : String} (above : parent ∈ placed.items)
    (only : graph.OnlyParent parent child) (listed : child ∈ models) :
    child ∈ (pass graph.parents models placed).items := by
  obtain ⟨before, after, rfl⟩ := List.append_of_mem listed
  have hsplit : pass graph.parents (before ++ child :: after) placed =
      pass graph.parents after
        (placeNext graph.parents (pass graph.parents before placed) child) := by
    simp [pass, List.foldl_append]
  -- when the child is visited, its parent is still placed
  have habove : parent ∈ (pass graph.parents before placed).items :=
    (prefix_pass _ _ _).subset above
  have hfollows : followsPlaced graph.parents (pass graph.parents before placed) child = true :=
    followsPlaced_iff.2 ⟨parent, habove, only⟩
  have hchild : child ∈
      (placeNext graph.parents (pass graph.parents before placed) child).items := by
    rw [placeNext, if_pos hfollows, OrderedSet.mem_insert]
    exact Or.inr rfl
  rw [hsplit]
  exact (prefix_pass _ _ _).subset hchild

/-- A model that is some steps below a root is placed after as many passes. -/
theorem mem_iterate_pass_of_descends {steps : ℕ} {model : String}
    (descends : graph.Descends models steps model) :
    model ∈ ((pass graph.parents models)^[steps] (graph.roots models)).items := by
  induction descends with
  | root hlisted horphan =>
    show _ ∈ (graph.roots models).items
    rw [roots, OrderedSet.mem_ofList, List.mem_filter]
    exact ⟨hlisted, by simp [horphan]⟩
  | under _ honly hlisted ih =>
    rw [Function.iterate_succ_apply']
    exact mem_pass ih honly hlisted

/-- Models that the passes place. -/
def settled (graph : Hierarchy) (models : List String) : OrderedSet :=
  passes graph.parents models passCount (graph.roots models)

/-- Models that lie no deeper than there are passes are placed. -/
theorem mem_settled_of_descends {steps : ℕ} {model : String}
    (descends : graph.Descends models steps model) (le : steps ≤ passCount) :
    model ∈ (graph.settled models).items := by
  obtain ⟨more, hmore⟩ := Nat.exists_eq_add_of_le' le
  rw [settled, passes_eq_iterate, hmore, Function.iterate_add_apply]
  exact (prefix_iterate_pass _ _ _ _).subset (mem_iterate_pass_of_descends descends)

/-- All placed models hang below a root, and each comes after its parent. -/
structure Settles (graph : Hierarchy) (models : List String) (placed : OrderedSet) : Prop where
  descends : ∀ model ∈ placed.items, ∃ steps, graph.Descends models steps model
  after : ∀ child ∈ placed.items, ∀ parent, (parent, child) ∈ graph.edges →
    [parent, child].Sublist placed.items

/-- Roots are placed before any pass, and none of them has a parent. -/
theorem settles_roots : graph.Settles models (graph.roots models) := by
  have hroot : ∀ model ∈ (graph.roots models).items,
      model ∈ models ∧ graph.hasParent model = false := by
    intro model hmem
    rw [roots, OrderedSet.mem_ofList, List.mem_filter] at hmem
    exact ⟨hmem.1, by simpa using hmem.2⟩
  refine ⟨fun model hmem => ⟨0, .root (hroot model hmem).1 (hroot model hmem).2⟩, ?_⟩
  intro child hmem parent hedge
  have hparent : graph.hasParent child = true := hasParent_iff.2 ⟨parent, hedge⟩
  rw [(hroot child hmem).2] at hparent
  contradiction

/-- Placing one model keeps the order. -/
theorem settles_placeNext {model : String} (start : graph.Settles models placed)
    (listed : model ∈ models) :
    graph.Settles models (placeNext graph.parents placed model) := by
  unfold placeNext
  split
  · next hfollows =>
    obtain ⟨above, habove, honly⟩ := followsPlaced_iff.1 hfollows
    by_cases hthere : model ∈ placed.items
    · rwa [OrderedSet.insert, dif_pos hthere]
    · have hitems : (placed.insert model).items = placed.items ++ [model] :=
        OrderedSet.items_insert_of_notMem hthere
      constructor
      · intro other hmem
        rcases OrderedSet.mem_insert.1 hmem with hold | rfl
        · exact start.descends other hold
        · obtain ⟨steps, hsteps⟩ := start.descends above habove
          exact ⟨steps + 1, .under hsteps honly listed⟩
      · intro child hmem parent hedge
        rw [hitems]
        rcases OrderedSet.mem_insert.1 hmem with hold | rfl
        · exact (start.after child hold parent hedge).trans (List.sublist_append_left _ _)
        · -- the model that is placed has one parent, which stands before it
          obtain rfl := honly.only parent hedge
          exact (List.singleton_sublist.2 habove).append (List.Sublist.refl [_])
  · exact start

/-- A pass keeps the order. -/
theorem settles_foldl_placeNext {visited : List String} (start : graph.Settles models placed)
    (listed : visited ⊆ models) :
    graph.Settles models (visited.foldl (placeNext graph.parents) placed) := by
  refine List.foldlRecOn visited (placeNext graph.parents) start ?_
  intro placed hplaced model hmem
  exact settles_placeNext hplaced (listed hmem)

/-- All passes together leave parents before their children. -/
theorem settles_settled (graph : Hierarchy) (models : List String) :
    graph.Settles models (graph.settled models) := by
  rw [settled, passes_eq_iterate]
  induction passCount with
  | zero => exact settles_roots
  | succ count ih =>
    rw [Function.iterate_succ_apply']
    exact settles_foldl_placeNext ih (List.Subset.refl models)

/-- The order is what the passes place, and then the rest of the listing. -/
theorem boundedPasses_eq (graph : Hierarchy) (models : List String) :
    graph.boundedPasses models =
      (graph.settled models).items ++
        (OrderedSet.ofList models).items.filter fun model =>
          !(graph.settled models).contains model :=
  OrderedSet.items_insertAll _ _

/-! ## Where parents come first -/

/-- No model has two parents. -/
def AtMostOneParent (graph : Hierarchy) : Prop :=
  ∀ child first second, (first, child) ∈ graph.edges → (second, child) ∈ graph.edges →
    first = second

/-- A model, a parent of it, a parent of that, and so on. -/
def IsParentChain (graph : Hierarchy) (chain : List String) : Prop :=
  chain.IsChain fun child parent => (parent, child) ∈ graph.edges

/-- Chains of parents have at most so many edges. -/
def IsShallow (graph : Hierarchy) (edges : ℕ) : Prop :=
  ∀ chain, graph.IsParentChain chain → chain.length ≤ edges + 1

/-- Where all parents are listed, so is everything above a model. -/
theorem IsParentChain.subset (closed : ∀ edge ∈ graph.edges, edge.1 ∈ models) {model : String}
    {chain : List String} (above : graph.IsParentChain (model :: chain)) : chain ⊆ models := by
  induction chain generalizing model with
  | nil => exact List.nil_subset _
  | cons parent rest ih =>
    obtain ⟨hedge, hrest⟩ := List.isChain_cons_cons.1 above
    exact List.cons_subset.2 ⟨closed _ hedge, ih hrest⟩

/-- No model has two parents if no child is recorded twice. -/
theorem atMostOneParent_iff : graph.AtMostOneParent ↔ (graph.edges.map Prod.snd).Nodup := by
  constructor
  · intro single
    refine graph.nodup_edges.map_on fun first hfirst second hsecond same => ?_
    have hsecond' : (second.1, first.2) ∈ graph.edges := same ▸ hsecond
    exact Prod.ext (single first.2 first.1 second.1 hfirst hsecond') same
  · intro distinct child first second hfirst hsecond
    have hedges : (first, child) = (second, child) :=
      List.inj_on_of_nodup_map distinct hfirst hsecond rfl
    exact (Prod.mk.inj hedges).1

/-- Chains are short where every model can be given a level of at most so many, children lying above
their parents. -/
theorem isShallow_of_levels {edges : ℕ} (level : String → ℕ) (le : ∀ model, level model ≤ edges)
    (rises : ∀ edge ∈ graph.edges, level edge.1 < level edge.2) : graph.IsShallow edges := by
  have hchains : ∀ model chain, graph.IsParentChain (model :: chain) →
      chain.length ≤ level model := by
    intro model chain hchain
    induction chain generalizing model with
    | nil => exact Nat.zero_le _
    | cons parent rest ih =>
      obtain ⟨hedge, hrest⟩ := List.isChain_cons_cons.1 hchain
      have hparent : rest.length ≤ level parent := ih parent hrest
      have hrise : level parent < level model := rises _ hedge
      rw [List.length_cons]
      omega
  intro chain hchain
  cases chain with
  | nil => exact Nat.zero_le _
  | cons model chain => exact Nat.succ_le_succ ((hchains model chain hchain).trans (le model))

theorem AtMostOneParent.onlyParent (single : graph.AtMostOneParent) {parent child : String}
    (edge : (parent, child) ∈ graph.edges) : graph.OnlyParent parent child :=
  ⟨edge, fun _ hother => single child _ _ hother edge⟩

/-- Descending passes along a chain of parents of the same length. -/
theorem exists_parentChain_of_descends {steps : ℕ} {model : String}
    (descends : graph.Descends models steps model) :
    ∃ chain, graph.IsParentChain (model :: chain) ∧ chain.length = steps := by
  induction descends with
  | root => exact ⟨[], List.isChain_singleton _, rfl⟩
  | @under steps parent child _ honly _ ih =>
    obtain ⟨chain, hchain, hlength⟩ := ih
    exact ⟨parent :: chain, List.isChain_cons_cons.2 ⟨honly.edge, hchain⟩, by simp [hlength]⟩

/-- Where chains are short, no model is far below a root. -/
theorem IsShallow.le_of_descends {edges steps : ℕ} {model : String}
    (shallow : graph.IsShallow edges)
    (descends : graph.Descends models steps model) : steps ≤ edges := by
  obtain ⟨chain, hchain, hlength⟩ := exists_parentChain_of_descends descends
  have hbound : (model :: chain).length ≤ edges + 1 := shallow _ hchain
  rw [List.length_cons, hlength] at hbound
  omega

/-- Everything above a model that hangs below a root is listed. -/
theorem subset_of_descends {steps : ℕ} {model : String}
    (descends : graph.Descends models steps model) {chain : List String}
    (above : graph.IsParentChain (model :: chain)) : chain ⊆ models := by
  induction descends generalizing chain with
  | root _ horphan =>
    cases chain with
    | nil => exact List.nil_subset _
    | cons parent rest =>
      have hparent : graph.hasParent _ = true :=
        hasParent_iff.2 ⟨parent, (List.isChain_cons_cons.1 above).1⟩
      rw [horphan] at hparent
      contradiction
  | under habove honly _ ih =>
    cases chain with
    | nil => exact List.nil_subset _
    | cons parent rest =>
      obtain ⟨hedge, hrest⟩ := List.isChain_cons_cons.1 above
      obtain rfl := honly.only parent hedge
      exact List.cons_subset.2 ⟨habove.listed, ih hrest⟩

/-- A listed model hangs below a root if all that is above it is listed, and not too high. -/
theorem AtMostOneParent.exists_descends (single : graph.AtMostOneParent) {height : ℕ}
    {model : String} (listed : model ∈ models)
    (closed : ∀ chain, graph.IsParentChain (model :: chain) → chain ⊆ models)
    (short : ∀ chain, graph.IsParentChain (model :: chain) → chain.length ≤ height) :
    ∃ steps, graph.Descends models steps model := by
  induction height generalizing model with
  | zero =>
    refine ⟨0, .root listed (Bool.eq_false_iff.2 fun hparent => ?_)⟩
    obtain ⟨parent, hedge⟩ := hasParent_iff.1 hparent
    have hlength : [parent].length ≤ 0 :=
      short [parent] (List.isChain_cons_cons.2 ⟨hedge, List.isChain_singleton _⟩)
    contradiction
  | succ height ih =>
    by_cases hparent : graph.hasParent model = true
    · obtain ⟨parent, hedge⟩ := hasParent_iff.1 hparent
      -- a chain above the parent is a chain above the model
      have hchain : ∀ chain, graph.IsParentChain (parent :: chain) →
          graph.IsParentChain (model :: parent :: chain) :=
        fun _ hchain => List.isChain_cons_cons.2 ⟨hedge, hchain⟩
      have hlisted : parent ∈ models :=
        closed [parent] (hchain [] (List.isChain_singleton _)) List.mem_cons_self
      obtain ⟨steps, hsteps⟩ := ih hlisted
        (fun chain habove => (List.cons_subset.1 (closed _ (hchain chain habove))).2)
        (fun chain habove => Nat.le_of_succ_le_succ (short _ (hchain chain habove)))
      exact ⟨steps + 1, .under hsteps (single.onlyParent hedge) listed⟩
    · exact ⟨0, .root listed (Bool.eq_false_iff.2 hparent)⟩

/-- Where chains of parents are short, a listed model hangs below a root if all that is above it is
listed. -/
theorem exists_descends_iff {edges : ℕ} (single : graph.AtMostOneParent)
    (shallow : graph.IsShallow edges) {model : String} (listed : model ∈ models) :
    (∃ steps, graph.Descends models steps model) ↔
      ∀ chain, graph.IsParentChain (model :: chain) → chain ⊆ models := by
  constructor
  · intro h
    obtain ⟨steps, hsteps⟩ := h
    exact fun _ habove => subset_of_descends hsteps habove
  · intro closed
    exact single.exists_descends listed closed
      fun _ habove => Nat.le_of_succ_le_succ (shallow _ habove)

/-- A parent that hangs below a root comes before its listed children. -/
theorem sublist_boundedPasses_of_descends {steps : ℕ} {parent child : String}
    (descends : graph.Descends models steps parent) (single : graph.AtMostOneParent)
    (shallow : graph.IsShallow passCount) (listed : child ∈ models)
    (edge : (parent, child) ∈ graph.edges) :
    [parent, child].Sublist (graph.boundedPasses models) := by
  have hchild : graph.Descends models (steps + 1) child :=
    .under descends (single.onlyParent edge) listed
  have hplaced : child ∈ (graph.settled models).items :=
    mem_settled_of_descends hchild (shallow.le_of_descends hchild)
  rw [boundedPasses_eq]
  exact ((settles_settled graph models).after child hplaced parent edge).trans
    (List.sublist_append_left _ _)

/-- Two models that no pass places come in the order of the listing. -/
theorem sublist_boundedPasses_iff_of_unplaced (listing : models.Nodup) {first second : String}
    (hfirst : first ∉ (graph.settled models).items)
    (hsecond : second ∉ (graph.settled models).items) :
    [first, second].Sublist (graph.boundedPasses models) ↔ [first, second].Sublist models := by
  rw [boundedPasses_eq, OrderedSet.items_ofList_of_nodup listing]
  constructor
  · intro h
    obtain ⟨front, back, hsplit, hfront, hback⟩ := List.sublist_append_iff.1 h
    -- nothing of the two stands among the placed models
    cases front with
    | nil =>
      rw [List.nil_append] at hsplit
      exact hsplit ▸ hback.trans List.filter_sublist
    | cons model rest =>
      rw [List.cons_append, List.cons.injEq] at hsplit
      exact absurd (hfront.subset (hsplit.1 ▸ List.mem_cons_self)) hfirst
  · intro h
    have hkept : [first, second].filter (fun model => !(graph.settled models).contains model) =
        [first, second] := by
      rw [List.filter_eq_self]
      intro model hmem
      have habsent : model ∉ (graph.settled models).items := by
        rcases List.mem_pair.1 hmem with rfl | rfl
        · exact hfirst
        · exact hsecond
      simpa [← OrderedSet.contains_iff] using habsent
    exact hkept ▸ (h.filter _).trans (List.sublist_append_right _ _)

/-- A parent comes before its child if all that is above it is listed, and else if it is listed
first. -/
theorem sublist_boundedPasses_iff (listing : models.Nodup) (single : graph.AtMostOneParent)
    (shallow : graph.IsShallow passCount) {parent child : String} (above : parent ∈ models)
    (listed : child ∈ models) (edge : (parent, child) ∈ graph.edges) :
    [parent, child].Sublist (graph.boundedPasses models) ↔
      (∀ chain, graph.IsParentChain (parent :: chain) → chain ⊆ models) ∨
        [parent, child].Sublist models := by
  rw [← exists_descends_iff single shallow above]
  have hsettles := settles_settled graph models
  by_cases hdescends : ∃ steps, graph.Descends models steps parent
  · obtain ⟨steps, hsteps⟩ := hdescends
    exact iff_of_true (sublist_boundedPasses_of_descends hsteps single shallow listed edge)
      (Or.inl ⟨steps, hsteps⟩)
  · have hparent : parent ∉ (graph.settled models).items :=
      fun hmem => hdescends (hsettles.descends parent hmem)
    have hchild : child ∉ (graph.settled models).items :=
      fun hmem => hparent ((hsettles.after child hmem parent edge).subset List.mem_cons_self)
    rw [or_iff_right hdescends]
    exact sublist_boundedPasses_iff_of_unplaced listing hparent hchild

end SheetSchema.Hierarchy
