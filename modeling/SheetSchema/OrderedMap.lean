/-!
# Ordered maps and sets

Finite maps from names to values, and finite sets of names, that remember the order in which
their names first came. Writing to a name that is already there changes its value and leaves its
place; a new name goes to the end. Both carry the proof that no name occurs twice.
-/

namespace SheetSchema

/-- Finite map from names to values, in the order in which the names first came. -/
structure OrderedMap (α : Type) where
  entries : List (String × α)
  nodup : (entries.map Prod.fst).Nodup
deriving DecidableEq

namespace OrderedMap

variable {α β ε : Type}

/-! ## Entry lists -/

/-- Write `value` at `key`: in place if the key is there, at the end otherwise. -/
def insertEntry (key : String) (value : α) : List (String × α) → List (String × α)
  | [] => [(key, value)]
  | entry :: rest =>
    if entry.1 = key then (key, value) :: rest else entry :: insertEntry key value rest

/-- Writing keeps the names as they are, or adds the new one at the end. -/
theorem keys_insertEntry (key : String) (value : α) (entries : List (String × α)) :
    (insertEntry key value entries).map Prod.fst =
      if key ∈ entries.map Prod.fst then entries.map Prod.fst
      else entries.map Prod.fst ++ [key] := by
  induction entries with
  | nil => simp [insertEntry]
  | cons entry rest ih =>
    by_cases h : entry.1 = key
    · simp [insertEntry, h]
    · have h' : key ≠ entry.1 := fun e => h e.symm
      simp only [insertEntry, if_neg h, List.map_cons, ih, List.mem_cons, h', false_or]
      split <;> simp

/-- Writing keeps names distinct, which makes it an operation on maps. -/
theorem nodup_insertEntry {entries : List (String × α)} (key : String) (value : α)
    (nodup : (entries.map Prod.fst).Nodup) :
    ((insertEntry key value entries).map Prod.fst).Nodup := by
  rw [keys_insertEntry]
  split
  · exact nodup
  · next absent =>
    refine List.nodup_append.2 ⟨nodup, by simp, ?_⟩
    intro a ha b hb
    rw [List.mem_singleton.1 hb]
    exact fun e => absent (e ▸ ha)

/-- Apply a fallible function to every value; the keys stay, and the first failure wins. -/
def traverseEntries (f : String → α → Except ε β) : (entries : List (String × α)) →
    Except ε { image : List (String × β) // image.map Prod.fst = entries.map Prod.fst }
  | [] => .ok ⟨[], rfl⟩
  | (key, value) :: rest =>
    match f key value with
    | .error e => .error e
    | .ok value' =>
      match traverseEntries f rest with
      | .error e => .error e
      | .ok ⟨rest', keys⟩ => .ok ⟨(key, value') :: rest', by simp [keys]⟩

/-! ## Maps -/

/-- The map with no entry. -/
def empty : OrderedMap α := ⟨[], by simp⟩

instance : EmptyCollection (OrderedMap α) := ⟨empty⟩
instance : Inhabited (OrderedMap α) := ⟨empty⟩

/-- Names in order. -/
def keys (map : OrderedMap α) : List String := map.entries.map Prod.fst

/-- Values in the order of their names. -/
def values (map : OrderedMap α) : List α := map.entries.map Prod.snd

/-- Number of entries. -/
def size (map : OrderedMap α) : Nat := map.entries.length

/-- Value at a name, if the name is there. -/
def get? (map : OrderedMap α) (key : String) : Option α := map.entries.lookup key

/-- Whether a name is there. -/
def contains (map : OrderedMap α) (key : String) : Bool := (map.get? key).isSome

/-- What a search in a list of entries finds is one of them. -/
theorem mem_of_lookup {entries : List (String × α)} {key : String} {value : α}
    (found : entries.lookup key = some value) : (key, value) ∈ entries := by
  obtain ⟨before, after, rfl, -⟩ := List.lookup_eq_some_iff.1 found
  simp

theorem mem_keys_of_get? {map : OrderedMap α} {key : String} {value : α}
    (found : map.get? key = some value) : key ∈ map.keys :=
  List.mem_map_of_mem (f := Prod.fst) (mem_of_lookup found)

/-- Write a value: a name that is there keeps its place, a new one goes to the end. -/
def insert (map : OrderedMap α) (key : String) (value : α) : OrderedMap α :=
  ⟨insertEntry key value map.entries, nodup_insertEntry key value map.nodup⟩

/-- Replace the value at a name by a function of what was there. -/
def modify (map : OrderedMap α) (key : String) (f : Option α → α) : OrderedMap α :=
  map.insert key (f (map.get? key))

/-- Keep the entries that satisfy a test. -/
def filter (map : OrderedMap α) (test : String → α → Bool) : OrderedMap α :=
  ⟨map.entries.filter fun entry => test entry.1 entry.2,
    map.nodup.sublist (List.filter_sublist.map _)⟩

/-- Apply a function to every value. -/
def map (m : OrderedMap α) (f : String → α → β) : OrderedMap β :=
  ⟨m.entries.map fun entry => (entry.1, f entry.1 entry.2), by
    simpa [List.map_map, Function.comp_def] using m.nodup⟩

/-- Apply a fallible function to every value in order; the first failure wins. -/
def traverse (m : OrderedMap α) (f : String → α → Except ε β) : Except ε (OrderedMap β) :=
  match traverseEntries f m.entries with
  | .error e => .error e
  | .ok ⟨entries, keys⟩ => .ok ⟨entries, keys ▸ m.nodup⟩

/-- Write a list of entries into an empty map, first to last. -/
def ofList (entries : List (String × α)) : OrderedMap α :=
  entries.foldl (fun map entry => map.insert entry.1 entry.2) empty

end OrderedMap

/-- Finite set of names, in the order in which they first came. -/
structure OrderedSet where
  items : List String
  nodup : items.Nodup
deriving DecidableEq

namespace OrderedSet

/-- The set with no name. -/
def empty : OrderedSet := ⟨[], List.nodup_nil⟩

instance : EmptyCollection OrderedSet := ⟨empty⟩
instance : Inhabited OrderedSet := ⟨empty⟩

/-- Whether a name is in the set. -/
def contains (set : OrderedSet) (name : String) : Bool := set.items.contains name

instance : Membership String OrderedSet := ⟨fun set name => name ∈ set.items⟩

instance (name : String) (set : OrderedSet) : Decidable (name ∈ set) :=
  inferInstanceAs (Decidable (name ∈ set.items))

/-- Add a name at the end, unless it is there. -/
def insert (set : OrderedSet) (name : String) : OrderedSet :=
  if present : name ∈ set.items then set
  else ⟨set.items ++ [name], by
    refine List.nodup_append.2 ⟨set.nodup, by simp, ?_⟩
    intro a ha b hb
    rw [List.mem_singleton.1 hb]
    exact fun e => present (e ▸ ha)⟩

/-- Add the names of a list, first to last. -/
def insertAll (set : OrderedSet) (names : List String) : OrderedSet :=
  names.foldl insert set

/-- The names of a list, each at its first place. -/
def ofList (names : List String) : OrderedSet := empty.insertAll names

end OrderedSet

end SheetSchema
