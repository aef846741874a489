import SheetSchema.Json.Basic
import SheetSchema.OrderedMap

/-!
# Decoding JSON trees

Readers for the shapes that documents are made of: strings, lists, maps, and records with known
slots. A record is written as an object, whose unknown members are passed over, or as an array of
its slots in order.
-/

namespace SheetSchema.Json

variable {α : Type}

/-- Levels of arrays and objects that a document may nest. -/
def maximumDepth : Nat := 127

/-- Read a string. -/
def string? : Json → Option String
  | string value => some value
  | _ => none

/-- Read a truth value. -/
def bool? : Json → Option Bool
  | bool value => some value
  | _ => none

/-- Read a list. -/
def list? (item? : Json → Option α) : Json → Option (List α)
  | array items => items.mapM item?
  | _ => none

/-- Read a map. Of members with the same name the first fixes the place and the last the value. -/
def map? (value? : Json → Option α) : Json → Option (OrderedMap α)
  | object members =>
    (members.mapM fun (member : String × Json) =>
      (value? member.2).map fun value => (member.1, value)).map OrderedMap.ofList
  | _ => none

/-- The values of the members that bear a name. -/
def valuesAt (members : List (String × Json)) (name : String) : List Json :=
  (members.filter fun member => member.1 == name).map Prod.snd

/-- The value of the member that bears a name, if there is one; two are an error. -/
def slot? (members : List (String × Json)) (name : String) : Option (Option Json) :=
  match valuesAt members name with
  | [] => some none
  | [value] => some (some value)
  | _ => none

/-- The slots of a record with the given names. -/
def slots? (names : List String) : Json → Option (List (Option Json))
  | object members => names.mapM (slot? members)
  | array items =>
    if items.length ≤ names.length then
      some (items.map some ++ List.replicate (names.length - items.length) none)
    else none
  | _ => none

/-- Read a slot that must be there. -/
def required (read? : Json → Option α) : Option Json → Option α
  | some value => read? value
  | none => none

/-- Read a slot that has a default. -/
def withDefault (default : α) (read? : Json → Option α) : Option Json → Option α
  | some value => read? value
  | none => some default

/-- Read a slot that may be absent or null. -/
def optional (read? : Json → Option α) : Option Json → Option (Option α)
  | none | some null => some none
  | some value => (read? value).map some

/-- Read the name of a case without arguments: a string, or an object that maps it to null. -/
def caseName? : Json → Option String
  | string name => some name
  | object [(name, null)] => some name
  | _ => none

/-- The array of a list of strings. -/
def ofStrings (items : List String) : Json := array (items.map string)

/-- The object of a map. -/
def ofMap (map : OrderedMap α) (value : α → Json) : Json :=
  object (map.entries.map fun (name, item) => (name, value item))

end SheetSchema.Json
