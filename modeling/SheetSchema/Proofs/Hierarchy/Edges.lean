import SheetSchema.Proofs.ModelNames
import SheetSchema.Proofs.Packages

/-!
# Edges of a hierarchy

A hierarchy is its edges: connecting two models adds one edge and keeps the others, so a hierarchy
that is built by connections has exactly these as edges. The hierarchy of a schema is built by the
relationships of its models.
-/

namespace SheetSchema

namespace Hierarchy

variable {graph : Hierarchy}

theorem mem_edges_iff {parent child : String} :
    (parent, child) ∈ graph.edges ↔
      ∃ children, graph.get? parent = some children ∧ child ∈ children.items := by
  unfold edges
  rw [List.mem_flatMap]
  constructor
  · intro h
    obtain ⟨⟨name, children⟩, hentry, hedge⟩ := h
    obtain ⟨item, hitem, heq⟩ := List.mem_map.1 hedge
    simp only [Prod.mk.injEq] at heq
    obtain ⟨rfl, rfl⟩ := heq
    exact ⟨children, OrderedMap.mem_entries_iff.1 hentry, hitem⟩
  · intro h
    obtain ⟨children, hparent, hchild⟩ := h
    exact ⟨(parent, children), OrderedMap.mem_entries_iff.2 hparent,
      List.mem_map.2 ⟨child, hchild, rfl⟩⟩

theorem mem_edges_connect {parent child : String} {edge : String × String} :
    edge ∈ (graph.connect parent child).edges ↔ edge ∈ graph.edges ∨ edge = (parent, child) := by
  obtain ⟨first, second⟩ := edge
  rw [mem_edges_iff, mem_edges_iff, connect, OrderedMap.get?_modify, Prod.mk.injEq]
  by_cases h : first = parent
  · subst h
    rw [if_pos rfl]
    cases graph.get? first with
    | none => simp [OrderedSet.mem_insert, EmptyCollection.emptyCollection, OrderedSet.empty]
    | some children => simp [OrderedSet.mem_insert]
  · rw [if_neg h]
    simp [h]

/-! ## Connections -/

/-- The hierarchy that connections lead to, each of a parent with a child, first to last. -/
def ofConnections (connections : List (String × String)) : Hierarchy :=
  connections.foldl (fun graph (parent, child) => graph.connect parent child) empty

theorem ofConnections_append_singleton (connections : List (String × String))
    (connection : String × String) :
    ofConnections (connections ++ [connection]) =
      (ofConnections connections).connect connection.1 connection.2 := by
  rw [ofConnections, List.foldl_append]
  rfl

theorem mem_edges_ofConnections {connections : List (String × String)} {edge : String × String} :
    edge ∈ (ofConnections connections).edges ↔ edge ∈ connections := by
  induction connections using List.reverseRecOn with
  | nil => simp [ofConnections, empty, edges]
  | append_singleton connections connection ih =>
    rw [ofConnections_append_singleton, mem_edges_connect, ih, List.mem_append,
      List.mem_singleton]

end Hierarchy

namespace Relations

theorem mem_targets_iff {fields : TypedModel} {key : String} {target : ModelName} :
    (key, target) ∈ targets fields ↔
      key ∈ fields.keys ∧ ModelName.ofKey? key = some (.ok target) := by
  unfold targets
  rw [List.mem_filterMap]
  constructor
  · intro h
    obtain ⟨name, hname, heq⟩ := h
    split at heq
    · next found hfound =>
      simp only [Option.some.injEq, Prod.mk.injEq] at heq
      obtain ⟨rfl, rfl⟩ := heq
      exact ⟨hname, hfound⟩
    · contradiction
  · intro h
    obtain ⟨hname, hfound⟩ := h
    exact ⟨key, hname, by rw [hfound]⟩

/-- The hierarchy of a schema is built by connecting the targets of relationships with their owners,
model by model. -/
theorem hierarchy_eq_ofConnections (schema : TypedSchema) :
    hierarchy schema = Hierarchy.ofConnections (schema.models.flatMap fun entry =>
      (targets entry.2).map fun relationship =>
        (relationship.2.qualified, entry.1.qualified)) := by
  unfold hierarchy Hierarchy.ofConnections
  rw [List.foldl_flatMap]
  simp only [List.foldl_map]

/-- The edges of a schema's hierarchy are the relationships of its models. -/
theorem mem_edges_hierarchy {schema : TypedSchema} {edge : String × String} :
    edge ∈ (hierarchy schema).edges ↔
      ∃ entry ∈ schema.models, ∃ relationship ∈ targets entry.2,
        edge = (relationship.2.qualified, entry.1.qualified) := by
  rw [hierarchy_eq_ofConnections, Hierarchy.mem_edges_ofConnections, List.mem_flatMap]
  simp only [List.mem_map, eq_comm]

end Relations

end SheetSchema
