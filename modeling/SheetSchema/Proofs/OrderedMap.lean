import Mathlib.Data.List.Induction
import Mathlib.Data.List.Nodup
import SheetSchema.OrderedMap
import SheetSchema.Proofs.Blocks
import SheetSchema.Proofs.Runs

/-!
# Laws of ordered maps and sets

Each operation on an ordered map is described twice: by the value it leaves under every name, and
by the order of the names. A map is its entry list, and looking a name up is the same as finding
its entry, since no name occurs twice.
-/

namespace SheetSchema

/-- What is there after a name is added to a list that may have it. -/
theorem mem_add_iff {names : List String} {name other : String} :
    other ∈ (if name ∈ names then names else names ++ [name]) ↔ other = name ∨ other ∈ names := by
  by_cases h : name ∈ names
  · rw [if_pos h]
    constructor
    · exact Or.inr
    · intro hother
      rcases hother with rfl | hmem
      · exact h
      · exact hmem
  · rw [if_neg h, List.mem_append, List.mem_singleton, or_comm]

namespace OrderedMap

variable {α β ε : Type}

/-! ## Entries and lookups -/

theorem nodup_keys (map : OrderedMap α) : map.keys.Nodup := map.nodup

/-- In a list without repeated names, an entry is found by its name. -/
theorem lookup_of_mem {entries : List (String × α)} (nodup : (entries.map Prod.fst).Nodup)
    {key : String} {value : α} (member : (key, value) ∈ entries) :
    entries.lookup key = some value := by
  induction entries with
  | nil => simp at member
  | cons entry rest ih =>
    obtain ⟨hfresh, hrest⟩ := List.nodup_cons.1 nodup
    rcases List.mem_cons.1 member with rfl | hmem
    · simp
    · -- the name of the head does not come again, so the search goes past it
      have hne : key ≠ entry.1 := by
        intro same
        apply hfresh
        rw [← same]
        exact List.mem_map_of_mem (f := Prod.fst) hmem
      have hbeq : (key == entry.1) = false := by simpa using hne
      rw [List.lookup_cons, hbeq]
      exact ih hrest hmem

/-- Entries and lookups say the same, since no name occurs twice. -/
theorem mem_entries_iff {map : OrderedMap α} {key : String} {value : α} :
    (key, value) ∈ map.entries ↔ map.get? key = some value :=
  ⟨lookup_of_mem map.nodup, mem_of_lookup⟩

/-- Looking up every key gives the values. -/
theorem map_get?_keys (map : OrderedMap α) : map.keys.map map.get? = map.values.map some := by
  unfold keys values
  rw [List.map_map, List.map_map]
  refine List.map_congr_left fun entry hentry => ?_
  exact mem_entries_iff.1 hentry

/-- A name is there exactly if it has a value. -/
theorem mem_keys_iff {map : OrderedMap α} {key : String} :
    key ∈ map.keys ↔ ∃ value, map.get? key = some value := by
  constructor
  · intro hmem
    obtain ⟨⟨_, value⟩, hentry, rfl⟩ := List.mem_map.1 hmem
    exact ⟨value, mem_entries_iff.1 hentry⟩
  · intro h
    obtain ⟨value, hfound⟩ := h
    exact mem_keys_of_get? hfound

theorem get?_eq_none_iff {map : OrderedMap α} {key : String} :
    map.get? key = none ↔ key ∉ map.keys := by
  rw [mem_keys_iff, Option.eq_none_iff_forall_ne_some]
  simp

@[simp] theorem entries_empty : (empty : OrderedMap α).entries = [] := rfl

@[simp] theorem keys_empty : (empty : OrderedMap α).keys = [] := rfl

@[simp] theorem get?_empty (key : String) : (empty : OrderedMap α).get? key = none := rfl

/-! ## Writing -/

/-- What is found under each name after writing in a list of entries. -/
theorem lookup_insertEntry (key other : String) (value : α) (entries : List (String × α)) :
    (insertEntry key value entries).lookup other =
      if other = key then some value else entries.lookup other := by
  induction entries with
  | nil =>
    by_cases h : other = key
    · simp [insertEntry, h]
    · have hbeq : (other == key) = false := by simpa using h
      simp [insertEntry, List.lookup_cons, h, hbeq]
  | cons entry rest ih =>
    by_cases hkey : entry.1 = key
    · rw [insertEntry, if_pos hkey, List.lookup_cons, List.lookup_cons, hkey]
      by_cases h : other = key
      · simp [h]
      · have hbeq : (other == key) = false := by simpa using h
        simp [h, hbeq]
    · -- the head stays, so a search that stops there is not affected
      rw [insertEntry, if_neg hkey, List.lookup_cons, List.lookup_cons, ih]
      by_cases hentry : other = entry.1
      · have h : other ≠ key := fun same => hkey (hentry ▸ same)
        simp [hentry, hentry ▸ h]
      · have hbeq : (other == entry.1) = false := by simpa using hentry
        simp [hbeq]

/-- What is found under each name after a write. -/
theorem get?_insert (map : OrderedMap α) (key other : String) (value : α) :
    (map.insert key value).get? other = if other = key then some value else map.get? other :=
  lookup_insertEntry key other value map.entries

theorem get?_modify (map : OrderedMap α) (key other : String) (f : Option α → α) :
    (map.modify key f).get? other =
      if other = key then some (f (map.get? key)) else map.get? other :=
  get?_insert map key other _

/-- Changing the value at a name, where a name that is not there has a default. -/
theorem getD_get?_modify (map : OrderedMap α) (key other : String) (default : α) (f : α → α) :
    ((map.modify key fun value => f (value.getD default)).get? other).getD default =
      if other = key then f ((map.get? other).getD default) else (map.get? other).getD default := by
  rw [get?_modify]
  by_cases h : other = key
  · rw [if_pos h, if_pos h, h, Option.getD_some]
  · rw [if_neg h, if_neg h]

/-- Where a written name stands. -/
theorem keys_insert (map : OrderedMap α) (key : String) (value : α) :
    (map.insert key value).keys = if key ∈ map.keys then map.keys else map.keys ++ [key] :=
  keys_insertEntry key value map.entries

theorem mem_keys_insert {map : OrderedMap α} {key other : String} {value : α} :
    other ∈ (map.insert key value).keys ↔ other = key ∨ other ∈ map.keys := by
  rw [keys_insert, mem_add_iff]

theorem mem_keys_modify {map : OrderedMap α} {key other : String} {f : Option α → α} :
    other ∈ (map.modify key f).keys ↔ other = key ∨ other ∈ map.keys :=
  mem_keys_insert

/-- A new name goes to the end. -/
theorem insertEntry_of_notMem {key : String} {value : α} {entries : List (String × α)}
    (absent : key ∉ entries.map Prod.fst) :
    insertEntry key value entries = entries ++ [(key, value)] := by
  induction entries with
  | nil => rfl
  | cons entry rest ih =>
    rw [List.map_cons, List.mem_cons, not_or] at absent
    rw [insertEntry, if_neg (Ne.symm absent.1), ih absent.2]
    rfl

/-- A map takes a new name in at its end. -/
theorem entries_insert_of_notMem {map : OrderedMap α} {key : String} {value : α}
    (absent : key ∉ map.keys) :
    (map.insert key value).entries = map.entries ++ [(key, value)] :=
  insertEntry_of_notMem absent

/-- A name that is there keeps its place and takes the new value. -/
theorem insertEntry_of_mem {key : String} {value : α} {entries : List (String × α)}
    (nodup : (entries.map Prod.fst).Nodup) (present : key ∈ entries.map Prod.fst) :
    insertEntry key value entries =
      entries.map fun entry => if entry.1 = key then (key, value) else entry := by
  induction entries with
  | nil => simp at present
  | cons entry rest ih =>
    obtain ⟨hfresh, hrest⟩ := List.nodup_cons.1 nodup
    by_cases h : entry.1 = key
    · -- behind the entry that is written no other has its name
      have hsame : rest.map (fun other => if other.1 = key then (key, value) else other) =
          rest := by
        conv_rhs => rw [← List.map_id rest]
        refine List.map_congr_left fun other hother => ?_
        have hne : other.1 ≠ key := by
          intro same
          exact hfresh (h ▸ same ▸ List.mem_map_of_mem (f := Prod.fst) hother)
        rw [if_neg hne, id]
      rw [insertEntry, if_pos h, List.map_cons, if_pos h, hsame]
    · have hmem : key ∈ rest.map Prod.fst :=
        (List.mem_cons.1 present).resolve_left (Ne.symm h)
      rw [insertEntry, if_neg h, List.map_cons, if_neg h, ih hrest hmem]

/-- A map that has the name already changes its value in place. -/
theorem entries_insert_of_mem {map : OrderedMap α} {key : String} {value : α}
    (present : key ∈ map.keys) :
    (map.insert key value).entries =
      map.entries.map fun entry => if entry.1 = key then (key, value) else entry :=
  insertEntry_of_mem map.nodup present

/-- Of two values written under one name the second stays. -/
theorem insertEntry_insertEntry (key : String) (value value' : α) (entries : List (String × α)) :
    insertEntry key value' (insertEntry key value entries) = insertEntry key value' entries := by
  induction entries with
  | nil => simp [insertEntry]
  | cons entry rest ih =>
    by_cases h : entry.1 = key
    · simp [insertEntry, h]
    · simp [insertEntry, h, ih]

/-! ## Selecting and rewriting -/

/-- Writing under a name that is always kept goes past a selection. -/
theorem filter_insertEntry {keep : String × α → Bool} {key : String}
    (kept : ∀ value, keep (key, value) = true) (value : α) (entries : List (String × α)) :
    (insertEntry key value entries).filter keep = insertEntry key value (entries.filter keep) := by
  induction entries with
  | nil => simp [insertEntry, kept]
  | cons entry rest ih =>
    by_cases hkey : entry.1 = key
    · have hentry : keep entry = true := by
        rw [show entry = (key, entry.2) by rw [← hkey]]
        exact kept entry.2
      rw [insertEntry, if_pos hkey, List.filter_cons_of_pos (kept value),
        List.filter_cons_of_pos hentry, insertEntry, if_pos hkey]
    · rw [insertEntry, if_neg hkey]
      by_cases hentry : keep entry = true
      · rw [List.filter_cons_of_pos hentry, List.filter_cons_of_pos hentry, ih, insertEntry,
          if_neg hkey]
      · rw [List.filter_cons_of_neg hentry, List.filter_cons_of_neg hentry, ih]

/-- The names that are kept are those whose values pass the test. -/
theorem mem_keys_filter_iff {map : OrderedMap α} {test : String → α → Bool} {key : String} :
    key ∈ (map.filter test).keys ↔ ∃ value, map.get? key = some value ∧ test key value = true := by
  rw [keys, List.mem_map]
  constructor
  · intro h
    obtain ⟨⟨_, value⟩, hentry, rfl⟩ := h
    obtain ⟨hmem, htest⟩ := List.mem_filter.1 hentry
    exact ⟨value, mem_entries_iff.1 hmem, htest⟩
  · intro h
    obtain ⟨value, hfound, htest⟩ := h
    exact ⟨(key, value), List.mem_filter.2 ⟨mem_entries_iff.2 hfound, htest⟩, rfl⟩

@[simp] theorem keys_map (m : OrderedMap α) (f : String → α → β) : (m.map f).keys = m.keys := by
  simp [keys, OrderedMap.map]

/-- Rewriting values leaves every name where it is, so it goes past a lookup. -/
theorem lookup_map_values (f : String → α → β) (entries : List (String × α)) (key : String) :
    (entries.map fun entry => (entry.1, f entry.1 entry.2)).lookup key =
      (entries.lookup key).map (f key) := by
  induction entries with
  | nil => rfl
  | cons entry rest ih =>
    rw [List.map_cons, List.lookup_cons, List.lookup_cons, ih]
    by_cases h : key = entry.1
    · simp [h]
    · have hbeq : (key == entry.1) = false := by simpa using h
      simp [hbeq]

@[simp] theorem get?_map (m : OrderedMap α) (f : String → α → β) (key : String) :
    (m.map f).get? key = (m.get? key).map (f key) :=
  lookup_map_values f m.entries key

/-- What a successful pass over a list of entries means for each of them. -/
theorem traverseEntries_eq_ok {f : String → α → Except ε β} {entries : List (String × α)}
    {image : { image : List (String × β) // image.map Prod.fst = entries.map Prod.fst }}
    (done : traverseEntries f entries = .ok image) :
    List.Forall₂ (fun entry entry' => entry'.1 = entry.1 ∧ f entry.1 entry.2 = .ok entry'.2)
      entries image.1 := by
  induction entries with
  | nil =>
    simp only [traverseEntries, Except.ok.injEq] at done
    subst done
    exact List.Forall₂.nil
  | cons entry rest ih =>
    rw [traverseEntries] at done
    split at done
    · contradiction
    · next value hvalue =>
      split at done
      · contradiction
      · next rest' hkeys hrest =>
        simp only [Except.ok.injEq] at done
        subst done
        exact List.Forall₂.cons ⟨rfl, hvalue⟩ (ih hrest)

/-- A pass that succeeds takes each entry to one of the same name, in order. -/
theorem forall₂_of_traverse {m : OrderedMap α} {f : String → α → Except ε β} {m' : OrderedMap β}
    (done : m.traverse f = .ok m') :
    List.Forall₂ (fun entry entry' => entry'.1 = entry.1 ∧ f entry.1 entry.2 = .ok entry'.2)
      m.entries m'.entries := by
  unfold traverse at done
  split at done
  · contradiction
  · next image hkeys himage =>
    simp only [Except.ok.injEq] at done
    subst done
    exact traverseEntries_eq_ok himage

theorem keys_of_traverse {m : OrderedMap α} {f : String → α → Except ε β} {m' : OrderedMap β}
    (done : m.traverse f = .ok m') : m'.keys = m.keys :=
  (map_eq_map_of_forall₂ ((forall₂_of_traverse done).imp fun _ _ h => h.1.symm)).symm

/-- A function that gives every value back leaves the entries as they are. -/
theorem traverseEntries_of_fixed {f : String → α → Except ε α} {entries : List (String × α)}
    (fixed : ∀ entry ∈ entries, f entry.1 entry.2 = .ok entry.2) :
    traverseEntries f entries = .ok ⟨entries, rfl⟩ := by
  induction entries with
  | nil => rfl
  | cons entry rest ih =>
    have hentry : f entry.1 entry.2 = .ok entry.2 := fixed entry List.mem_cons_self
    rw [traverseEntries, hentry, ih fun other hother => fixed other (List.mem_cons_of_mem _ hother)]

/-- A pass that keeps every value keeps the map. -/
theorem traverse_of_fixed {m : OrderedMap α} {f : String → α → Except ε α}
    (fixed : ∀ entry ∈ m.entries, f entry.1 entry.2 = .ok entry.2) : m.traverse f = .ok m := by
  rw [traverse, traverseEntries_of_fixed fixed]

/-- Entry lists that agree on names and are related value by value are related under lookup. -/
theorem lookup_forall₂ {R : String → α → β → Prop} {entries : List (String × α)}
    {entries' : List (String × β)}
    (related : List.Forall₂ (fun entry entry' => entry'.1 = entry.1 ∧ R entry.1 entry.2 entry'.2)
      entries entries') (key : String) :
    Option.Rel (R key) (entries.lookup key) (entries'.lookup key) := by
  induction related with
  | nil => exact Option.Rel.none
  | @cons entry entry' rest rest' hhead _ ih =>
    obtain ⟨hname, hvalue⟩ := hhead
    rw [List.lookup_cons, List.lookup_cons, hname]
    by_cases h : key = entry.1
    · subst h
      simpa using Option.Rel.some hvalue
    · have hbeq : (key == entry.1) = false := by simpa using h
      simpa only [hbeq] using ih

/-- A pass that succeeds, seen from one name. -/
theorem get?_traverse {m : OrderedMap α} {f : String → α → Except ε β} {m' : OrderedMap β}
    (done : m.traverse f = .ok m') (key : String) :
    Option.Rel (fun value value' => f key value = .ok value') (m.get? key) (m'.get? key) :=
  lookup_forall₂ (R := fun key value value' => f key value = .ok value')
    (forall₂_of_traverse done) key

/-- A pass over entries fails at one of them. -/
theorem exists_mem_of_traverseEntries_eq_error {f : String → α → Except ε β}
    {entries : List (String × α)} {error : ε} (failed : traverseEntries f entries = .error error) :
    ∃ entry ∈ entries, f entry.1 entry.2 = .error error := by
  induction entries with
  | nil => simp [traverseEntries] at failed
  | cons entry rest ih =>
    rw [traverseEntries] at failed
    split at failed
    · next e hvalue =>
      rw [Except.error.injEq] at failed
      exact ⟨entry, List.mem_cons_self, failed ▸ hvalue⟩
    · split at failed
      · next e hrest =>
        rw [Except.error.injEq] at failed
        obtain ⟨other, hmem, hother⟩ := ih (failed ▸ hrest)
        exact ⟨other, List.mem_cons_of_mem _ hmem, hother⟩
      · contradiction

/-- A pass over a map fails at one of its values. -/
theorem exists_of_traverse_eq_error {m : OrderedMap α} {f : String → α → Except ε β} {error : ε}
    (failed : m.traverse f = .error error) :
    ∃ key value, m.get? key = some value ∧ f key value = .error error := by
  unfold traverse at failed
  split at failed
  · next e hentries =>
    rw [Except.error.injEq] at failed
    obtain ⟨⟨key, value⟩, hmem, hvalue⟩ :=
      exists_mem_of_traverseEntries_eq_error (failed ▸ hentries)
    exact ⟨key, value, mem_entries_iff.1 hmem, hvalue⟩
  · contradiction

/-- A pass over a map fails for the faults of its values. -/
theorem traverse_failsExactly (m : OrderedMap α) {f : String → α → Except ε β}
    {Fault : String → α → ε → Prop}
    (each : ∀ key value, FailsExactly (f key value) (Fault key value)) :
    FailsExactly (m.traverse f) fun error =>
      ∃ key value, m.get? key = some value ∧ Fault key value error where
  fault error hfailed := by
    obtain ⟨key, value, hfound, hvalue⟩ := exists_of_traverse_eq_error hfailed
    exact ⟨key, value, hfound, (each key value).fault error hvalue⟩
  sound m' hdone error hfault := by
    obtain ⟨key, value, hfound, hvalue⟩ := hfault
    have hrel := get?_traverse hdone key
    rw [hfound] at hrel
    generalize m'.get? key = image at hrel
    cases hrel with
    | some hok => exact (each key value).sound _ hok error hvalue

/-! ## Maps of lists -/

/-- Writing a list of entries into a map that may have some of their names. -/
theorem foldl_insert_get? (entries : List (String × α)) (map : OrderedMap α) (key : String) :
    (entries.foldl (fun map entry => map.insert entry.1 entry.2) map).get? key =
      (entries.reverse.lookup key).or (map.get? key) := by
  induction entries generalizing map with
  | nil => rfl
  | cons entry rest ih =>
    rw [List.foldl_cons, ih, get?_insert, List.reverse_cons, List.lookup_append]
    rw [List.lookup_cons, List.lookup_nil]
    by_cases h : key = entry.1
    · simp [h]
    · have hbeq : (key == entry.1) = false := by simpa using h
      simp [h, hbeq]

/-- Of several entries for one name the last counts. -/
theorem get?_ofList (entries : List (String × α)) (key : String) :
    (ofList entries).get? key = entries.reverse.lookup key := by
  rw [ofList, foldl_insert_get?, get?_empty, Option.or_none]

/-- An entry whose name no other value has is found. -/
theorem get?_ofList_of_unique {entries : List (String × α)} {key : String} {value : α}
    (member : (key, value) ∈ entries)
    (unique : ∀ other, (key, other) ∈ entries → other = value) :
    (ofList entries).get? key = some value := by
  rw [get?_ofList]
  cases hfound : entries.reverse.lookup key with
  | none =>
    have habsent := List.lookup_eq_none_iff.1 hfound (key, value) (List.mem_reverse.2 member)
    simp at habsent
  | some other => rw [unique other (List.mem_reverse.1 (mem_of_lookup hfound))]

/-- Names after writing a list of entries. -/
theorem mem_keys_foldl_insert {entries : List (String × α)} {map : OrderedMap α} {key : String} :
    key ∈ (entries.foldl (fun map entry => map.insert entry.1 entry.2) map).keys ↔
      key ∈ map.keys ∨ key ∈ entries.map Prod.fst := by
  induction entries generalizing map with
  | nil => simp
  | cons entry rest ih =>
    rw [List.foldl_cons, ih, mem_keys_insert, List.map_cons, List.mem_cons]
    tauto

theorem mem_keys_ofList {entries : List (String × α)} {key : String} :
    key ∈ (ofList entries).keys ↔ key ∈ entries.map Prod.fst := by
  rw [ofList, mem_keys_foldl_insert]
  simp

/-- Entries with new names are put behind what is there, in their order. -/
theorem entries_foldl_insert {entries : List (String × α)} {map : OrderedMap α}
    (nodup : ((map.entries ++ entries).map Prod.fst).Nodup) :
    (entries.foldl (fun map entry => map.insert entry.1 entry.2) map).entries =
      map.entries ++ entries := by
  induction entries generalizing map with
  | nil => simp
  | cons entry rest ih =>
    -- every entry is new to the map so far, so each goes to the end
    have hfresh : entry.1 ∉ map.keys := by
      intro hmem
      rw [List.map_append, List.nodup_append] at nodup
      exact nodup.2.2 entry.1 hmem entry.1 (by simp) rfl
    have hentries : (map.insert entry.1 entry.2).entries = map.entries ++ [(entry.1, entry.2)] :=
      entries_insert_of_notMem hfresh
    have hsplit : map.entries ++ entry :: rest = (map.insert entry.1 entry.2).entries ++ rest := by
      rw [hentries, List.append_assoc]
      rfl
    rw [List.foldl_cons, hsplit]
    exact ih (hsplit ▸ nodup)

/-- A list without repeated names is kept as it is. -/
theorem entries_ofList {entries : List (String × α)} (nodup : (entries.map Prod.fst).Nodup) :
    (ofList entries).entries = entries := by
  rw [ofList, entries_foldl_insert (by simpa using nodup)]
  rfl

/-- A map is its list of entries. -/
theorem eq_of_entries {first second : OrderedMap α} (same : first.entries = second.entries) :
    first = second := by
  cases first
  cases second
  simpa using same

/-- Of two values that are written under one name the second stays. -/
theorem insert_insert (map : OrderedMap α) (key : String) (value value' : α) :
    (map.insert key value).insert key value' = map.insert key value' :=
  eq_of_entries (insertEntry_insertEntry key value value' map.entries)

/-- The entries of a map give the map back. -/
theorem ofList_entries (map : OrderedMap α) : ofList map.entries = map :=
  eq_of_entries (entries_ofList map.nodup)

/-- The value of a name is that of its last entry. -/
theorem get?_ofList_eq_getLast? (entries : List (String × α)) (key : String) :
    (ofList entries).get? key =
      (entries.filterMap fun entry => if entry.1 = key then some entry.2 else none).getLast? := by
  rw [get?_ofList]
  induction entries using List.reverseRecOn with
  | nil => rfl
  | append_singleton entries entry ih =>
    rw [List.reverse_append, List.reverse_singleton, List.singleton_append, List.lookup_cons, ih,
      List.filterMap_append]
    by_cases h : entry.1 = key
    · simp [h]
    · have hbeq : (key == entry.1) = false := by simpa using Ne.symm h
      simp [h, hbeq]

/-- A lookup as a selection, in which order and repetition are easy to follow. -/
theorem get?_eq_getLast? (map : OrderedMap α) (key : String) :
    map.get? key =
      (map.entries.filterMap fun entry => if entry.1 = key then some entry.2 else none).getLast? := by
  rw [← get?_ofList_eq_getLast?, ofList_entries]

end OrderedMap

/-! ## Sets -/

namespace OrderedSet

/-- A set is its list of names. -/
theorem eq_of_items {first second : OrderedSet} (same : first.items = second.items) :
    first = second := by
  cases first
  cases second
  simpa using same

theorem contains_iff {set : OrderedSet} {name : String} :
    set.contains name = true ↔ name ∈ set.items := by
  rw [contains, List.contains_iff_mem]

/-- The names of a set after one is added. -/
theorem items_insert (set : OrderedSet) (name : String) :
    (set.insert name).items = if name ∈ set.items then set.items else set.items ++ [name] := by
  unfold insert
  split <;> rfl

theorem items_insert_of_mem {set : OrderedSet} {name : String} (present : name ∈ set.items) :
    (set.insert name).items = set.items := by
  rw [items_insert, if_pos present]

/-- A new name goes to the end. -/
theorem items_insert_of_notMem {set : OrderedSet} {name : String} (absent : name ∉ set.items) :
    (set.insert name).items = set.items ++ [name] := by
  rw [items_insert, if_neg absent]

theorem mem_insert {set : OrderedSet} {name other : String} :
    other ∈ (set.insert name).items ↔ other ∈ set.items ∨ other = name := by
  rw [items_insert, mem_add_iff, or_comm]

/-- The members of a set after a list of names is added. -/
theorem mem_insertAll {set : OrderedSet} {names : List String} {other : String} :
    other ∈ (set.insertAll names).items ↔ other ∈ set.items ∨ other ∈ names := by
  unfold insertAll
  induction names generalizing set with
  | nil => simp
  | cons name rest ih =>
    rw [List.foldl_cons, ih, mem_insert, List.mem_cons, or_assoc]

/-- Adding two lists one after the other is adding their concatenation. -/
theorem insertAll_append (set : OrderedSet) (names more : List String) :
    set.insertAll (names ++ more) = (set.insertAll names).insertAll more :=
  List.foldl_append

/-- The set of a list has the names of the list. -/
theorem mem_ofList {names : List String} {other : String} :
    other ∈ (ofList names).items ↔ other ∈ names := by
  rw [ofList, mem_insertAll]
  simp [empty]

/-- The set of a list grows name by name, which is what inductions from the end go along. -/
theorem ofList_append_singleton (names : List String) (name : String) :
    ofList (names ++ [name]) = (ofList names).insert name := by
  rw [ofList, insertAll_append]
  rfl

/-- A list without repetitions is kept as it is. -/
theorem items_ofList_of_nodup {names : List String} (nodup : names.Nodup) :
    (ofList names).items = names := by
  induction names using List.reverseRecOn with
  | nil => rfl
  | append_singleton names name ih =>
    obtain ⟨hnames, -, hdisjoint⟩ := List.nodup_append.1 nodup
    have hnew : name ∉ (ofList names).items := by
      rw [ih hnames]
      exact fun hmem => hdisjoint name hmem name (List.mem_singleton_self name) rfl
    rw [ofList_append_singleton, items_insert_of_notMem hnew, ih hnames]

/-- The set of a list has the names of the list, each at its first place. -/
theorem items_ofList (names : List String) : (ofList names).items = names.eraseDups := by
  induction names using List.reverseRecOn with
  | nil => rfl
  | append_singleton names name ih =>
    rw [ofList_append_singleton, List.eraseDups_append, ← ih]
    by_cases hmem : name ∈ names
    · have hlast : [name].removeAll names = [] := by simp [List.removeAll, hmem]
      rw [items_insert_of_mem (mem_ofList.2 hmem), hlast, List.eraseDups_nil, List.append_nil]
    · have hlast : [name].removeAll names = [name] := by simp [List.removeAll, hmem]
      rw [items_insert_of_notMem (mt mem_ofList.1 hmem), hlast]
      rfl

theorem nodup_eraseDups (names : List String) : names.eraseDups.Nodup :=
  items_ofList names ▸ (ofList names).nodup

/-- Names are selected before or after repetitions are left out. -/
theorem items_ofList_filter (test : String → Bool) (names : List String) :
    (ofList (names.filter test)).items = (ofList names).items.filter test := by
  induction names using List.reverseRecOn with
  | nil => rfl
  | append_singleton names name ih =>
    rw [List.filter_append, ofList_append_singleton]
    by_cases htest : test name = true
    · rw [List.filter_cons_of_pos htest, List.filter_nil, ofList_append_singleton]
      by_cases hmem : name ∈ names
      · have hkept : name ∈ names.filter test := List.mem_filter.2 ⟨hmem, htest⟩
        rw [items_insert_of_mem (mem_ofList.2 hkept), items_insert_of_mem (mem_ofList.2 hmem), ih]
      · have hleft : name ∉ names.filter test := fun h => hmem (List.mem_of_mem_filter h)
        rw [items_insert_of_notMem (mt mem_ofList.1 hleft),
          items_insert_of_notMem (mt mem_ofList.1 hmem), List.filter_append, ih,
          List.filter_cons_of_pos htest, List.filter_nil]
    · rw [List.filter_cons_of_neg htest, List.filter_nil, List.append_nil, ih]
      by_cases hmem : name ∈ names
      · rw [items_insert_of_mem (mem_ofList.2 hmem)]
      · rw [items_insert_of_notMem (mt mem_ofList.1 hmem), List.filter_append,
          List.filter_cons_of_neg htest, List.filter_nil, List.append_nil]

/-- Of the names that are added, those that are new go to the end, each at its first place. -/
theorem items_insertAll (set : OrderedSet) (names : List String) :
    (set.insertAll names).items =
      set.items ++ (ofList names).items.filter fun name => !set.contains name := by
  induction names using List.reverseRecOn with
  | nil => simp [insertAll, ofList, empty]
  | append_singleton names name ih =>
    have hstep : set.insertAll (names ++ [name]) = (set.insertAll names).insert name :=
      insertAll_append set names [name]
    rw [hstep, ofList_append_singleton]
    by_cases hset : name ∈ set.items
    · have hthere : name ∈ (set.insertAll names).items := mem_insertAll.2 (Or.inl hset)
      have hcontains : set.contains name = true := contains_iff.2 hset
      rw [items_insert, if_pos hthere, ih, items_insert]
      split
      · rfl
      · simp [hcontains]
    · have hcontains : set.contains name = false := by
        rw [← Bool.not_eq_true, contains_iff]
        exact hset
      by_cases hnames : name ∈ names
      · have hthere : name ∈ (set.insertAll names).items := mem_insertAll.2 (Or.inr hnames)
        rw [items_insert, if_pos hthere, ih, items_insert, if_pos (mem_ofList.2 hnames)]
      · have hnew : name ∉ (set.insertAll names).items := by
          rw [mem_insertAll, not_or]
          exact ⟨hset, hnames⟩
        have hlast : name ∉ (ofList names).items := mt mem_ofList.1 hnames
        rw [items_insert_of_notMem hnew, items_insert_of_notMem hlast, ih]
        simp [hcontains]

end OrderedSet

/-! ## Names of a map -/

namespace OrderedMap

variable {α : Type}

/-- The names of a map as a set. -/
def keySet (map : OrderedMap α) : OrderedSet := ⟨map.keys, map.nodup⟩

/-- Writing to a map adds the name to the set of its names. -/
theorem keySet_insert (map : OrderedMap α) (key : String) (value : α) :
    (map.insert key value).keySet = map.keySet.insert key := by
  refine OrderedSet.eq_of_items ?_
  rw [OrderedSet.items_insert]
  exact keys_insert map key value

/-- Writing a list of entries adds all their names. -/
theorem keySet_foldl_insert (entries : List (String × α)) (map : OrderedMap α) :
    (entries.foldl (fun map entry => map.insert entry.1 entry.2) map).keySet =
      map.keySet.insertAll (entries.map Prod.fst) := by
  induction entries generalizing map with
  | nil => rfl
  | cons entry rest ih =>
    rw [List.foldl_cons, ih, keySet_insert]
    rfl

/-- Of several entries for one name the first gives the place. -/
theorem keys_ofList (entries : List (String × α)) :
    (ofList entries).keys = (entries.map Prod.fst).eraseDups := by
  rw [← OrderedSet.items_ofList]
  exact congrArg OrderedSet.items (keySet_foldl_insert entries empty)

end OrderedMap

end SheetSchema
