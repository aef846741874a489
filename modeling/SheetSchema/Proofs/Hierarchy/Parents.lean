import SheetSchema.Proofs.Hierarchy.Edges

/-!
# Parents in a hierarchy

The table of parents is the edges read backwards: under every child it has the parents of that
child, each once, in the order of the edges.
-/

namespace SheetSchema.Hierarchy

variable {graph : Hierarchy}

/-! ## The table -/

/-- Parents of a child in a list of edges. -/
def parentsIn (edges : List (String × String)) (child : String) : List String :=
  (edges.filter fun edge => edge.2 = child).map Prod.fst

/-- The parents of a model are read off the edges. -/
theorem mem_parentsIn_iff {edges : List (String × String)} {parent child : String} :
    parent ∈ parentsIn edges child ↔ (parent, child) ∈ edges := by
  unfold parentsIn
  simp

/-- Reading some more edges backwards. -/
theorem get?_foldl_parents (edges : List (String × String)) (table : OrderedMap (List String))
    (child : String) :
    (edges.foldl
        (fun table (parent, child) => table.modify child fun parents => parents.getD [] ++ [parent])
        table).get? child =
      if parentsIn edges child = [] then table.get? child
      else some ((table.get? child).getD [] ++ parentsIn edges child) := by
  induction edges generalizing table with
  | nil => rfl
  | cons edge rest ih =>
    obtain ⟨parent, other⟩ := edge
    rw [List.foldl_cons, ih, OrderedMap.get?_modify]
    by_cases h : other = child
    · subst h
      -- the parent of this edge stands before those of the edges that follow
      have hparents : parentsIn ((parent, other) :: rest) other =
          parent :: parentsIn rest other := by
        simp [parentsIn]
      rw [if_pos rfl, hparents, if_neg (List.cons_ne_nil _ _), Option.getD_some,
        List.append_assoc, List.singleton_append]
      split
      · next hnone => rw [hnone]
      · rfl
    · have hparents : parentsIn ((parent, other) :: rest) child = parentsIn rest child := by
        simp [parentsIn, h]
      rw [if_neg (Ne.symm h), hparents]

/-- A table lists them, and has no entry where there are none. -/
theorem get?_parents (graph : Hierarchy) (child : String) :
    graph.parents.get? child =
      if parentsIn graph.edges child = [] then none else some (parentsIn graph.edges child) := by
  unfold parents
  rw [get?_foldl_parents]
  rfl

theorem hasParent_iff {model : String} :
    graph.hasParent model = true ↔ ∃ parent, (parent, model) ∈ graph.edges := by
  unfold hasParent OrderedMap.values
  simp only [List.any_map, List.any_eq_true, Function.comp_apply, OrderedSet.contains_iff]
  constructor
  · intro h
    obtain ⟨⟨parent, children⟩, hentry, hchild⟩ := h
    exact ⟨parent, mem_edges_iff.2 ⟨children, OrderedMap.mem_entries_iff.1 hentry, hchild⟩⟩
  · intro h
    obtain ⟨parent, hedge⟩ := h
    obtain ⟨children, hchildren, hchild⟩ := mem_edges_iff.1 hedge
    exact ⟨(parent, children), OrderedMap.mem_entries_iff.2 hchildren, hchild⟩

/-- No edge is recorded twice. -/
theorem nodup_edges (graph : Hierarchy) : graph.edges.Nodup := by
  unfold edges
  rw [List.nodup_flatMap]
  constructor
  · intro entry _
    exact entry.2.nodup.map fun first second same => (Prod.mk.inj same).2
  · -- edges of different entries have different parents
    have hdistinct : graph.entries.Pairwise fun first second => first.1 ≠ second.1 :=
      List.pairwise_map.1 graph.nodup
    refine hdistinct.imp fun {first second} hne => ?_
    intro edge hfirst hsecond
    obtain ⟨_, _, rfl⟩ := List.mem_map.1 hfirst
    obtain ⟨_, _, hsame⟩ := List.mem_map.1 hsecond
    exact hne (Prod.mk.inj hsame).1.symm

theorem nodup_parentsIn (graph : Hierarchy) (child : String) :
    (parentsIn graph.edges child).Nodup := by
  unfold parentsIn
  refine (graph.nodup_edges.filter _).map_on ?_
  intro first hfirst second hsecond hsame
  have hfirstChild : first.2 = child := by simpa using (List.mem_filter.1 hfirst).2
  have hsecondChild : second.2 = child := by simpa using (List.mem_filter.1 hsecond).2
  exact Prod.ext hsame (hfirstChild.trans hsecondChild.symm)

/-! ## Only parents -/

/-- A child has this parent and no other. -/
structure OnlyParent (graph : Hierarchy) (parent child : String) : Prop where
  edge : (parent, child) ∈ graph.edges
  only : ∀ other, (other, child) ∈ graph.edges → other = parent

/-- A model with one parent in the table has no other. -/
theorem parentsIn_eq_singleton_iff {parent child : String} :
    parentsIn graph.edges child = [parent] ↔ graph.OnlyParent parent child := by
  constructor
  · intro h
    refine ⟨mem_parentsIn_iff.1 (by rw [h]; exact List.mem_singleton_self _), ?_⟩
    intro other hother
    have hmem : other ∈ parentsIn graph.edges child := mem_parentsIn_iff.2 hother
    rw [h] at hmem
    exact List.mem_singleton.1 hmem
  · intro only
    -- a list without repetitions whose only member is the parent
    have hperm : (parentsIn graph.edges child).Perm [parent] := by
      refine (List.perm_ext_iff_of_nodup (graph.nodup_parentsIn child)
        (List.nodup_singleton parent)).2 fun other => ?_
      rw [mem_parentsIn_iff, List.mem_singleton]
      constructor
      · exact only.only other
      · rintro rfl
        exact only.edge
    exact List.perm_singleton.1 hperm

theorem get?_parents_eq_singleton_iff {parent child : String} :
    graph.parents.get? child = some [parent] ↔ graph.OnlyParent parent child := by
  rw [get?_parents, ← parentsIn_eq_singleton_iff]
  split
  · next hnone => simp [hnone]
  · exact Option.some_inj

end SheetSchema.Hierarchy
