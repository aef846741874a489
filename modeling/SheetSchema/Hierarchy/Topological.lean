import SheetSchema.Error

/-!
# Topological order

The order of models in which every parent comes before its children. Every model counts its
listed parents; a model whose count is zero is ready, and when it is put out the counts of its
children go down. Models on a cycle of relationships, and those below one, never become ready:
they follow as listed, and a warning names them.
-/

namespace SheetSchema.Hierarchy

/-- What the ordering keeps between two steps. -/
structure Progress where
  /-- For every listed model, how many of its parents are still to be put out. -/
  degrees : OrderedMap Nat
  /-- Models that may be put out, first come first. -/
  ready : List String
  /-- Models put out so far. -/
  sorted : OrderedSet

/-- Distinct listed parents of a model other than itself. -/
def listedParents (known : OrderedSet) (parents : OrderedMap (List String)) (model : String) :
    OrderedSet :=
  .ofList (((parents.get? model).getD []).filter fun parent =>
    parent != model && known.contains parent)

/-- The state before the first step. -/
def Progress.start (graph : Hierarchy) (known : OrderedSet) : Progress :=
  let parents := graph.parents
  let degrees := OrderedMap.ofList
    (known.items.map fun model => (model, (listedParents known parents model).items.length))
  { degrees
    ready := (degrees.filter fun _ degree => degree == 0).keys
    sorted := .empty }

/-- Count down one child of a model that was put out. -/
def Progress.release (model : String) (progress : Progress) (child : String) : Progress :=
  if child = model then progress
  else
    match progress.degrees.get? child with
    | none => progress
    | some degree =>
      { progress with
        degrees := progress.degrees.insert child (degree - 1)
        ready := if degree - 1 = 0 then progress.ready ++ [child] else progress.ready }

/-- Put out a model that was taken from the front of the ready ones. -/
def Progress.putOut (graph : Hierarchy) (model : String) (progress : Progress) : Progress :=
  if progress.sorted.contains model then progress
  else
    let progress := { progress with sorted := progress.sorted.insert model }
    match graph.children? model with
    | none => progress
    | some children => children.items.foldl (Progress.release model) progress

/-- Put out ready models until there is none, for at most `fuel` steps. -/
def Progress.run (graph : Hierarchy) : Nat → Progress → Progress
  | 0, progress => progress
  | fuel + 1, progress =>
    match progress.ready with
    | [] => progress
    | model :: ready => run graph fuel ({ progress with ready }.putOut graph model)

/-- The state in which no model is ready. A model becomes ready once at the start or when an edge
counts it down, so there are not more steps than models and edges. -/
def Progress.final (graph : Hierarchy) (known : OrderedSet) : Progress :=
  run graph (known.items.length + graph.edges.length) (start graph known)

/-- Listed models that never became ready. -/
def unsorted (graph : Hierarchy) (models : List String) : List String :=
  let known := OrderedSet.ofList models
  let sorted := (Progress.final graph known).sorted
  known.items.filter fun model => !sorted.contains model

/-- The listed models, parents first as far as there are no cycles. -/
def topological (graph : Hierarchy) (models : List String) : List String :=
  let known := OrderedSet.ofList models
  (Progress.final graph known).sorted.items ++ graph.unsorted models

/-- A warning if some models never became ready. -/
def topologicalWarnings (graph : Hierarchy) (models : List String) : List Warning :=
  match graph.unsorted models with
  | [] => []
  | models => [.relationshipCycle models]

end SheetSchema.Hierarchy
