/-!
# JSON values

A JSON text as a tree: members in the order written, repeated names included, and numbers as they
are spelled. What a number or an object means is decided by whoever reads the tree.
-/

namespace SheetSchema

/-- Tree of a JSON text. -/
inductive Json where
  | null
  | bool (value : Bool)
  /-- A number, spelled as in the text. -/
  | number (literal : String)
  | string (value : String)
  | array (items : List Json)
  | object (members : List (String × Json))
  /-- A string, or an object with a name, that escapes half of a surrogate pair: it has the
  grammar of JSON but stands for no text. -/
  | unpaired
deriving Inhabited

end SheetSchema
