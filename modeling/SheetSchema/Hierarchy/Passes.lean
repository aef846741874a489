import SheetSchema.Schema.Basic

/-!
# Ordering by passes

A best-effort order of models, parents first. Models that are nobody's child come first. Then a
fixed number of passes place every model whose only parent is already placed, and what is left
follows as listed. Models with several parents, and models deeper below a root than there are
passes, can come out before a parent.
-/

namespace SheetSchema.Hierarchy

/-- Number of passes after the roots. -/
def passCount : Nat := 3

/-- Models of the list that are nobody's child. -/
def roots (graph : Hierarchy) (models : List String) : OrderedSet :=
  .ofList (models.filter fun model => !graph.hasParent model)

/-- Whether a model has exactly one parent and that one is placed. -/
def followsPlaced (parents : OrderedMap (List String)) (placed : OrderedSet) (model : String) :
    Bool :=
  match parents.get? model with
  | some [parent] => placed.contains parent
  | _ => false

/-- Place a model if its only parent is placed. -/
def placeNext (parents : OrderedMap (List String)) (placed : OrderedSet) (model : String) :
    OrderedSet :=
  if followsPlaced parents placed model then placed.insert model else placed

/-- One pass over the models. -/
def pass (parents : OrderedMap (List String)) (models : List String) (placed : OrderedSet) :
    OrderedSet :=
  models.foldl (placeNext parents) placed

/-- At most `count` passes; a pass that places no model is the last. -/
def passes (parents : OrderedMap (List String)) (models : List String) :
    Nat → OrderedSet → OrderedSet
  | 0, placed => placed
  | count + 1, placed =>
    let next := pass parents models placed
    if next = placed then placed else passes parents models count next

/-- The listed models, ordered by passes. -/
def boundedPasses (graph : Hierarchy) (models : List String) : List String :=
  ((passes graph.parents models passCount (graph.roots models)).insertAll models).items

end SheetSchema.Hierarchy
