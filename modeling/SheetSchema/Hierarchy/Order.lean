import SheetSchema.Settings.Compiler
import SheetSchema.Hierarchy.Discovery
import SheetSchema.Hierarchy.Passes
import SheetSchema.Hierarchy.Topological

/-!
# Order of models

Models ordered by the strategy that the settings choose.
-/

namespace SheetSchema.Hierarchy

/-- The listed models in the order of a strategy. -/
def inOrder (graph : Hierarchy) (strategy : OrderStrategy) (models : List String) :
    List String :=
  match strategy with
  | .boundedPasses => graph.boundedPasses models
  | .topological => graph.topological models

/-- Warnings of a strategy. -/
def orderWarnings (graph : Hierarchy) (strategy : OrderStrategy) (models : List String) :
    List Warning :=
  match strategy with
  | .boundedPasses => []
  | .topological => graph.topologicalWarnings models

end SheetSchema.Hierarchy
