import SheetSchema.Json.Basic

/-!
# Sorted members

Members of an object in the order of their names, by code point. Of members with the same name the
last counts.
-/

namespace SheetSchema.Json

/-- Write a member into a sorted list of members. -/
def insertMember {α : Type} (name : String) (value : α) :
    List (String × α) → List (String × α)
  | [] => [(name, value)]
  | entry :: rest =>
    if name = entry.1 then (name, value) :: rest
    else if name < entry.1 then (name, value) :: entry :: rest
    else entry :: insertMember name value rest

/-- Sort members by name. -/
def sortMembers {α : Type} (members : List (String × α)) : List (String × α) :=
  members.foldl (fun sorted entry => insertMember entry.1 entry.2 sorted) []

mutual

/-- Sort the members of all objects in a tree. -/
def sorted : Json → Json
  | array items => array (sortedItems items)
  | object members => object (sortMembers (sortedValues members))
  | json => json

/-- Sort the members of all objects in the items of an array. -/
def sortedItems : List Json → List Json
  | [] => []
  | item :: items => sorted item :: sortedItems items

/-- Sort the members of all objects in the values of members. -/
def sortedValues : List (String × Json) → List (String × Json)
  | [] => []
  | (name, value) :: members => (name, sorted value) :: sortedValues members

end

end SheetSchema.Json
