import Mathlib.Data.Prod.Basic
import SheetSchema.Proofs.Hierarchy.Parents

/-!
# Connections read both ways

A hierarchy is built by connecting parents with children, one connection after the other. Its
children of a parent and its parents of a child are the same connections, read forwards and
backwards, each once: children stand in the order in which they were first connected with their
parent, parents in the order in which they first were a parent, of whatever child.
-/

namespace SheetSchema

/-! ## Sets in the order of a record -/

namespace OrderedSet

variable {α : Type} [BEq α] {entry : String → α} {record : List α} {set : OrderedSet}

/-- The names of a set are those that have an entry in a record, in the order in which their entries
first come. -/
structure Follows (entry : String → α) (record : List α) (set : OrderedSet) : Prop where
  mem_iff : ∀ name, name ∈ set.items ↔ entry name ∈ record
  ordered : set.items.Pairwise fun first second =>
    record.idxOf (entry first) < record.idxOf (entry second)

namespace Follows

theorem start (entry : String → α) : Follows entry [] empty where
  mem_iff name := by simp [empty]
  ordered := List.Pairwise.nil

variable [LawfulBEq α]

/-- What comes later does not change where an entry first came. -/
theorem ordered_append (follows : set.Follows entry record) (more : List α) :
    set.items.Pairwise fun first second =>
      (record ++ more).idxOf (entry first) < (record ++ more).idxOf (entry second) := by
  refine follows.ordered.imp_of_mem fun {first second} hfirst hsecond hlt => ?_
  rwa [List.idxOf_append_of_mem ((follows.mem_iff first).1 hfirst),
    List.idxOf_append_of_mem ((follows.mem_iff second).1 hsecond)]

/-- One more entry, of no name. -/
theorem pass (follows : set.Follows entry record) {other : α}
    (foreign : ∀ name, entry name ≠ other) : set.Follows entry (record ++ [other]) where
  mem_iff name := by
    rw [List.mem_append, List.mem_singleton, follows.mem_iff, or_iff_left (foreign name)]
  ordered := follows.ordered_append [other]

/-- One more entry, of a name that is added with it. -/
theorem insert (follows : set.Follows entry record) (injective : Function.Injective entry)
    (name : String) : (set.insert name).Follows entry (record ++ [entry name]) where
  mem_iff other := by
    rw [mem_insert, List.mem_append, List.mem_singleton, follows.mem_iff, injective.eq_iff]
  ordered := by
    have hold := follows.ordered_append [entry name]
    by_cases hmem : name ∈ set.items
    · rwa [items_insert_of_mem hmem]
    · rw [items_insert_of_notMem hmem, List.pairwise_append]
      refine ⟨hold, List.pairwise_singleton _ _, ?_⟩
      intro first hfirst second hsecond
      -- the entries of the names that were there stand in the record, the new one behind it
      have hentry : entry first ∈ record := (follows.mem_iff first).1 hfirst
      have hnew : entry name ∉ record := mt (follows.mem_iff name).2 hmem
      rw [List.mem_singleton.1 hsecond, List.idxOf_append_of_mem hentry,
        List.idxOf_append_of_notMem hnew]
      exact Nat.lt_add_right _ (List.idxOf_lt_length_of_mem hentry)

end Follows

end OrderedSet

namespace Hierarchy

variable {graph : Hierarchy} {connections : List (String × String)}

/-! ## Building -/

/-- Children of a model as a set, which is empty if the model is no parent. -/
def childSet (graph : Hierarchy) (parent : String) : OrderedSet := (graph.children? parent).getD {}

/-- A connection adds to the children of one parent. -/
theorem childSet_connect (graph : Hierarchy) (parent child other : String) :
    (graph.connect parent child).childSet other =
      if other = parent then (graph.childSet other).insert child else graph.childSet other := by
  unfold childSet children? connect
  exact OrderedMap.getD_get?_modify graph parent other {} fun children => children.insert child

/-- The parents of a hierarchy, and the children of each, come in the order of connections. -/
structure Follows (connections : List (String × String)) (graph : Hierarchy) : Prop where
  parents : graph.keySet.Follows id (connections.map Prod.fst)
  children : ∀ parent, (graph.childSet parent).Follows (Prod.mk parent) connections

theorem follows_empty : Follows [] empty where
  parents := OrderedSet.Follows.start id
  children parent := OrderedSet.Follows.start (Prod.mk parent)

/-- One more connection. -/
theorem Follows.connect (follows : graph.Follows connections) (parent child : String) :
    (graph.connect parent child).Follows (connections ++ [(parent, child)]) where
  parents := by
    rw [Hierarchy.connect, OrderedMap.modify, OrderedMap.keySet_insert, List.map_append]
    exact follows.parents.insert Function.injective_id parent
  children other := by
    rw [childSet_connect]
    by_cases h : other = parent
    · subst h
      rw [if_pos rfl]
      exact (follows.children other).insert (Prod.mk_right_injective other) child
    · -- a connection of another parent
      rw [if_neg h]
      exact (follows.children other).pass fun name same => h (Prod.mk.inj same).1

/-- A hierarchy that is built by connections follows them. -/
theorem follows_ofConnections (connections : List (String × String)) :
    (ofConnections connections).Follows connections := by
  induction connections using List.reverseRecOn with
  | nil => exact follows_empty
  | append_singleton connections connection ih =>
    rw [ofConnections_append_singleton]
    exact ih.connect connection.1 connection.2

/-! ## Reading backwards -/

theorem parentsIn_append (first second : List (String × String)) (child : String) :
    parentsIn (first ++ second) child = parentsIn first child ++ parentsIn second child := by
  unfold parentsIn
  rw [List.filter_append, List.map_append]

/-- Among its own edges a parent comes once or not at all. -/
theorem parentsIn_map_mk (parent child : String) (children : OrderedSet) :
    parentsIn (children.items.map (Prod.mk parent)) child =
      if child ∈ children.items then [parent] else [] := by
  unfold parentsIn
  rw [List.filter_map, List.map_map]
  simp only [Function.comp_def]
  rw [List.filter_eq, List.map_const', List.length_replicate, children.nodup.count]
  split <;> rfl

/-- The parents of a child are those that have it among their children, in the order of the
hierarchy. -/
theorem parentsIn_edges (graph : Hierarchy) (child : String) :
    parentsIn graph.edges child =
      (graph.entries.filter fun entry => child ∈ entry.2.items).map Prod.fst := by
  unfold edges
  induction graph.entries with
  | nil => rfl
  | cons entry rest ih =>
    have hentry := parentsIn_map_mk entry.1 child entry.2
    rw [List.flatMap_cons, parentsIn_append, ih, hentry]
    by_cases hmem : child ∈ entry.2.items
    · rw [if_pos hmem, List.filter_cons_of_pos (by simpa using hmem)]
      rfl
    · rw [if_neg hmem, List.filter_cons_of_neg (by simpa using hmem)]
      rfl

theorem parentsIn_sublist_keys (graph : Hierarchy) (child : String) :
    (parentsIn graph.edges child).Sublist graph.keys := by
  rw [parentsIn_edges]
  exact List.filter_sublist.map Prod.fst

/-- The table of parents lists what the edges say. -/
theorem get?_parents_eq_some_iff {child : String} {parents : List String} :
    graph.parents.get? child = some parents ↔
      parentsIn graph.edges child = parents ∧ parents ≠ [] := by
  rw [get?_parents]
  split
  · next hnone => simp [hnone, eq_comm]
  · next hsome =>
    rw [Option.some_inj]
    constructor
    · rintro rfl
      exact ⟨rfl, hsome⟩
    · exact And.left

theorem exists_get?_parents_iff {parent child : String} :
    (∃ parents, graph.parents.get? child = some parents ∧ parent ∈ parents) ↔
      (parent, child) ∈ graph.edges := by
  constructor
  · intro h
    obtain ⟨parents, hfound, hmem⟩ := h
    obtain ⟨rfl, -⟩ := get?_parents_eq_some_iff.1 hfound
    exact mem_parentsIn_iff.1 hmem
  · intro hedge
    have hmem := mem_parentsIn_iff.2 hedge
    exact ⟨_, get?_parents_eq_some_iff.2 ⟨rfl, List.ne_nil_of_mem hmem⟩, hmem⟩

/-- A model has a parent if it is in the table of parents. -/
theorem hasParent_iff_exists_get?_parents {child : String} :
    graph.hasParent child = true ↔ ∃ parents, graph.parents.get? child = some parents := by
  rw [hasParent_iff]
  constructor
  · intro h
    obtain ⟨parent, hedge⟩ := h
    obtain ⟨parents, hfound, -⟩ := exists_get?_parents_iff.2 hedge
    exact ⟨parents, hfound⟩
  · intro h
    obtain ⟨parents, hfound⟩ := h
    obtain ⟨rfl, hsome⟩ := get?_parents_eq_some_iff.1 hfound
    obtain ⟨parent, hmem⟩ := List.exists_mem_of_ne_nil _ hsome
    exact ⟨parent, mem_parentsIn_iff.1 hmem⟩

/-! ## Both ways -/

/-- What the children of parents and the parents of children are, and in which order they come, by
the connections of a hierarchy. -/
structure ReadsBothWays (connections : List (String × String)) (graph : Hierarchy) : Prop where
  /-- A parent is listed for a child exactly if the two were connected. -/
  mem_parents_iff : ∀ parent child,
    (∃ parents, graph.parents.get? child = some parents ∧ parent ∈ parents) ↔
      (parent, child) ∈ connections
  /-- A child is among the children of a parent exactly if the two were connected. -/
  mem_children_iff : ∀ parent child,
    (∃ children, graph.children? parent = some children ∧ child ∈ children.items) ↔
      (parent, child) ∈ connections
  /-- No parent is listed twice for a child. -/
  parents_once : ∀ child parents, graph.parents.get? child = some parents → parents.Nodup
  /-- Parents come in the order in which they first were a parent, of whatever child. -/
  parents_ordered : ∀ child parents, graph.parents.get? child = some parents →
    parents.Pairwise fun first second =>
      (connections.map Prod.fst).idxOf first < (connections.map Prod.fst).idxOf second
  /-- Children come in the order in which they were first connected with their parent. -/
  children_ordered : ∀ parent children, graph.children? parent = some children →
    children.items.Pairwise fun first second =>
      connections.idxOf (parent, first) < connections.idxOf (parent, second)
  /-- A model has a parent exactly if parents are listed for it. -/
  hasParent_iff : ∀ child,
    graph.hasParent child = true ↔ ∃ parents, graph.parents.get? child = some parents
  /-- Where parents are listed, there is one. -/
  parents_ne_nil : ∀ child parents, graph.parents.get? child = some parents → parents ≠ []

/-- Whatever the connections are, repeated ones, cycles and models connected with themselves
included, a hierarchy reads the same forwards and backwards: both views show every connection once,
in the order of first connections. -/
theorem connections_read_both_ways (connections : List (String × String)) :
    (ofConnections connections).ReadsBothWays connections := by
  have hfollows := follows_ofConnections connections
  have hparentsIn : ∀ child parents,
      (ofConnections connections).parents.get? child = some parents →
        parentsIn (ofConnections connections).edges child = parents :=
    fun _ _ hparents => (get?_parents_eq_some_iff.1 hparents).1
  exact {
    mem_parents_iff := fun _ _ => exists_get?_parents_iff.trans mem_edges_ofConnections
    mem_children_iff := fun _ _ => mem_edges_iff.symm.trans mem_edges_ofConnections
    parents_once := fun child parents hparents =>
      hparentsIn child parents hparents ▸ nodup_parentsIn _ child
    parents_ordered := fun child parents hparents => by
      rw [← hparentsIn child parents hparents]
      exact hfollows.parents.ordered.sublist (parentsIn_sublist_keys _ child)
    children_ordered := fun parent children hchildren => by
      have hordered := (hfollows.children parent).ordered
      rwa [childSet, hchildren, Option.getD_some] at hordered
    hasParent_iff := fun _ => hasParent_iff_exists_get?_parents
    parents_ne_nil := fun _ _ hparents => (get?_parents_eq_some_iff.1 hparents).2 }

/-- The user was a parent before the post was, though the post is connected with the comment
first. -/
example :
    (ofConnections [("users.User", "blog.Post"), ("blog.Post", "blog.Comment"),
      ("users.User", "blog.Comment")]).parents.get? "blog.Comment" =
        some ["users.User", "blog.Post"] := by
  decide

end Hierarchy

end SheetSchema
