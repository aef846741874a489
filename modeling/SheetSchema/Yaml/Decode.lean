import SheetSchema.OrderedMap
import SheetSchema.Yaml.Node
import SheetSchema.Yaml.Plain

/-!
# Decoding YAML documents

Readers for the shapes that documents are made of. Where a text is expected every scalar is taken
as it is written; where a list or a map is expected an empty scalar, or nothing, is an empty one.
Aliases are followed, but only so often, and collections nest only so deep.
-/

namespace SheetSchema.Yaml

/-- Levels of collections that a document may nest. -/
def maximumDepth : Nat := 128

/-- Step of decoding, which may fail. The state counts how many aliases may still be followed. -/
abbrev Decoder (α : Type) := StateT Nat Option α

variable {α : Type}

/-- Follow an alias. -/
def follow (document : Document) (node : Node) : Decoder Node := do
  match node with
  | .alias anchor =>
    match ← get with
    | 0 => failure
    | left + 1 =>
      set left
      match document.find? anchor with
      | some node => return node
      | none => failure
  | node => return node

/-- Read a text. -/
def text (document : Document) (node : Node) : Decoder String := do
  match ← follow document node with
  | .scalar _ text _ => return text
  | _ => failure

/-- The items of a list. -/
def items (document : Document) (node : Node) : Decoder (List Node) := do
  match ← follow document node with
  | .sequence _ items => return items
  | .scalar _ "" _ => return []
  | _ => failure

/-- The entries of a map. -/
def entries (document : Document) (node : Node) : Decoder (List (Node × Node)) := do
  match ← follow document node with
  | .mapping _ entries => return entries
  | .scalar _ "" _ => return []
  | _ => failure

/-- Read a list. -/
def list (document : Document) (item : Node → Decoder α) (node : Node) : Decoder (List α) := do
  (← items document node).mapM item

/-- Read a map. Of entries with the same name the first fixes the place and the last the value. -/
def map (document : Document) (value : Node → Decoder α) (node : Node) :
    Decoder (OrderedMap α) := do
  let entries ← (← entries document node).mapM fun (key, item) => do
    let name ← text document key
    return (name, ← value item)
  return .ofList entries

/-- Read the cell that a scalar stands for. -/
def scalar (tag : Option String) (text : String) (plain : Bool) : Decoder Cell :=
  match scalarCell? tag text plain with
  | some cell => return cell
  | none => failure

/-- Read a cell that may nest at most `room` levels deep. -/
def cell (document : Document) : (room : Nat) → Node → Decoder Cell
  | 0, node => do
    match ← follow document node with
    | .scalar tag text plain => scalar tag text plain
    | _ => failure
  | room + 1, node => do
    match ← follow document node with
    | .scalar tag text plain => scalar tag text plain
    | .sequence tag items =>
      if tag.any isLocalTag then failure
      else return .list (← items.mapM (cell document room))
    | .mapping tag entries =>
      if tag.any isLocalTag then failure
      else
        let members ← entries.mapM fun (key, value) => do
          let name ← text document key
          return (name, ← cell document room value)
        return .recordOf members
    | _ => failure

/-- Read a document; an empty one holds nothing, which counts as an empty scalar. -/
def decode? (read : Document → Node → Decoder α) (source : String) : Option α := do
  let document ← Document.ofText? source
  (read document (document.root.getD .blank)).run' document.aliasBound

end SheetSchema.Yaml
