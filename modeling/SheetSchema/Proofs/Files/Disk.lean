import Mathlib.Data.List.Induction
import SheetSchema.Files.Disk
import SheetSchema.Proofs.Files.Path

/-!
# Actions on a disk

What an action leaves of a disk. Where a path leads depends on the directories only, so that
writing files moves nothing; a file is read back as long as nothing is written in its place.
-/

namespace SheetSchema

theorem fromUTF8?_toUTF8 (text : String) : String.fromUTF8? text.toUTF8 = some text :=
  dif_pos text.isValidUTF8

/-- A file that holds a text is read as that text. -/
theorem Found.text_file (text : String) : (Found.file (some text.toUTF8)).text = .ok text := by
  rw [Found.text, fromUTF8?_toUTF8]

namespace Disk

variable {α β : Type} {disk left : Disk}

/-! ## Runs -/

/-- What an action results in, and what it leaves of a disk. -/
def act (disk : Disk) (action : StateM Disk α) : α × Disk := action disk

/-- What an action that may fail results in, and what it leaves of a disk. -/
def run (disk : Disk) (action : ExceptT Error (StateM Disk) α) : Except Error α × Disk :=
  disk.act action.run

/-- A sequence of two actions, taken apart. -/
theorem act_bind_eq_iff {first : StateM Disk α} {second : α → StateM Disk β} {result : β} :
    disk.act (first >>= second) = (result, left) ↔
      ∃ value middle, disk.act first = (value, middle) ∧
        middle.act (second value) = (result, left) := by
  show (disk.act first).2.act (second (disk.act first).1) = _ ↔ _
  constructor
  · intro h
    exact ⟨_, _, rfl, h⟩
  · intro h
    obtain ⟨value, middle, hfirst, hsecond⟩ := h
    rw [hfirst]
    exact hsecond

theorem act_pure_eq_iff {value result : α} :
    disk.act (pure value) = (result, left) ↔ value = result ∧ disk = left :=
  Prod.mk.injEq .. ▸ Iff.rfl

theorem run_pure (value : α) : disk.run (pure value) = (.ok value, disk) := rfl

theorem run_throw (error : Error) :
    disk.run (throw error : ExceptT Error (StateM Disk) α) = (.error error, disk) := rfl

theorem run_lift (action : StateM Disk α) :
    disk.run (liftM action) = (.ok (disk.act action).1, (disk.act action).2) := rfl

theorem run_except (result : Except Error α) :
    disk.run (liftM result : ExceptT Error (StateM Disk) α) = (result, disk) := rfl

/-- A computation without effects leaves the disk as it is. -/
theorem run_except_eq_iff {result outcome : Except Error α} :
    disk.run (liftM result : ExceptT Error (StateM Disk) α) = (outcome, left) ↔
      result = outcome ∧ disk = left := by
  rw [run_except, Prod.mk.injEq]

/-- A sequence stops at an error, with the disk as the failing action left it. -/
theorem run_bind {first : ExceptT Error (StateM Disk) α}
    {second : α → ExceptT Error (StateM Disk) β} :
    disk.run (first >>= second) =
      match disk.run first with
      | (.ok value, left) => left.run (second value)
      | (.error error, left) => (.error error, left) := by
  show ExceptT.bindCont second (disk.run first).1 (disk.run first).2 = _
  rcases disk.run first with ⟨error | value, left⟩
  · rfl
  · rfl

/-- A sequence of two actions that may fail, taken apart. -/
theorem run_bind_eq_iff {first : ExceptT Error (StateM Disk) α}
    {second : α → ExceptT Error (StateM Disk) β} {result : Except Error β} :
    disk.run (first >>= second) = (result, left) ↔
      (∃ error, disk.run first = (.error error, left) ∧ .error error = result) ∨
        ∃ value middle, disk.run first = (.ok value, middle) ∧
          middle.run (second value) = (result, left) := by
  rw [run_bind]
  rcases disk.run first with ⟨error | value, middle⟩
  · simp [and_comm]
  · simp

/-- A sequence whose first action does not fail. -/
theorem run_lift_bind_eq_iff {first : StateM Disk α}
    {second : α → ExceptT Error (StateM Disk) β} {result : Except Error β} :
    disk.run (liftM first >>= second) = (result, left) ↔
      ∃ value middle, disk.act first = (value, middle) ∧
        middle.run (second value) = (result, left) := by
  rw [run_bind, run_lift]
  constructor
  · intro h
    exact ⟨_, _, rfl, h⟩
  · intro h
    obtain ⟨value, middle, hfirst, hsecond⟩ := h
    rw [hfirst]
    exact hsecond

/-- A sequence whose second action only computes. -/
theorem run_bind_pure_eq_iff {first : ExceptT Error (StateM Disk) α} {f : α → β}
    {result : Except Error β} :
    disk.run (first >>= fun value => pure (f value)) = (result, left) ↔
      ∃ outcome, disk.run first = (outcome, left) ∧ outcome.map f = result := by
  rw [run_bind]
  rcases disk.run first with ⟨error | value, middle⟩
  · simp [Except.map, and_comm]
  · simp [Except.map, run_pure, and_comm]

/-- A successful sequence of two actions, taken apart. -/
theorem run_bind_eq_ok_iff {first : ExceptT Error (StateM Disk) α}
    {second : α → ExceptT Error (StateM Disk) β} {result : β} :
    disk.run (first >>= second) = (.ok result, left) ↔
      ∃ value middle, disk.run first = (.ok value, middle) ∧
        middle.run (second value) = (.ok result, left) := by
  simp [run_bind_eq_iff]

/-! ## Places -/

/-- Two disks with the same directories. -/
structure SameFolders (disk left : Disk) : Prop where
  directories : left.directories = disk.directories
  current : left.current = disk.current

/-- Two disks with the same directories and files. -/
structure SameFiles (disk left : Disk) : Prop extends SameFolders disk left where
  files : left.files = disk.files

namespace SameFolders

theorem trans {middle : Disk} (first : SameFolders disk middle)
    (second : SameFolders middle left) : SameFolders disk left :=
  ⟨second.directories.trans first.directories, second.current.trans first.current⟩

theorem isDirectory (same : SameFolders disk left) (place : Place) :
    left.isDirectory place = disk.isDirectory place := by
  rw [Disk.isDirectory, Disk.isDirectory, same.directories]

/-- Every step of a path asks for directories only. -/
theorem walk (same : SameFolders disk left) (place : Place) (parts : List String) :
    left.walk place parts = disk.walk place parts := by
  induction parts generalizing place with
  | nil => rfl
  | cons part parts ih => simp only [Disk.walk, same.isDirectory, ih]

/-- Where a path leads depends on the directories only. -/
theorem locate (same : SameFolders disk left) (path : String) :
    left.locate path = disk.locate path := by
  rw [Disk.locate, Disk.locate, start, start, same.current, same.walk]

end SameFolders

theorem SameFiles.refl (disk : Disk) : SameFiles disk disk := ⟨⟨rfl, rfl⟩, rfl⟩

theorem SameFiles.trans {middle : Disk} (first : SameFiles disk middle)
    (second : SameFiles middle left) : SameFiles disk left :=
  ⟨first.toSameFolders.trans second.toSameFolders, second.files.trans first.files⟩

/-- A path is walked to its last directory first, and then to the name in it. -/
theorem walk_append_singleton (place : Place) (parts : List String) (name : String) :
    disk.walk place (parts ++ [name]) =
      (disk.walk place parts).bind fun folder => disk.walk folder [name] := by
  induction parts generalizing place with
  | nil => rfl
  | cons part parts ih =>
    rw [List.cons_append, walk, walk]
    simp only [ih]
    split_ifs <;> rfl

/-- The directory that a path names, if all on the way are directories. -/
def folder? (disk : Disk) (directory : String) : Option Place :=
  disk.walk (disk.start directory) (Path.folderParts directory)

/-- A plain name in a directory leads into the directory that is reached. -/
theorem locate_join {name : String} (plain : Path.IsPlain name) (directory : String) :
    disk.locate (Path.join directory name) =
      (disk.folder? directory).bind fun folder =>
        if disk.isDirectory folder && isName name then some (folder ++ [name]) else none := by
  have hname : ¬(name = "" ∨ name = ".") := not_or.2 ⟨plain.ne_empty, plain.ne_here⟩
  unfold locate folder? start
  rw [if_neg (Path.join_ne_empty plain directory), Path.parts_join plain,
    Path.isAbsolute_join plain, walk_append_singleton]
  refine Option.bind_congr fun folder _ => ?_
  rw [walk, if_neg hname, if_neg plain.ne_up]
  cases disk.isDirectory folder with
  | false => rfl
  | true => rfl

/-- Different names in a directory lead to different places. -/
theorem locate_join_ne {first second : String} (plainFirst : Path.IsPlain first)
    (plainSecond : Path.IsPlain second) (ne : first ≠ second) {directory : String} {place : Place}
    (found : disk.locate (Path.join directory first) = some place) :
    disk.locate (Path.join directory second) ≠ some place := by
  intro hsecond
  rw [locate_join plainFirst, Option.bind_eq_some_iff] at found
  rw [locate_join plainSecond, Option.bind_eq_some_iff] at hsecond
  obtain ⟨folder, hfolder, hfirst⟩ := found
  obtain ⟨folder', hfolder', hother⟩ := hsecond
  obtain rfl : folder = folder' := Option.some.inj (hfolder.symm.trans hfolder')
  have hplace : folder ++ [first] = place := by
    split at hfirst
    · exact Option.some.inj hfirst
    · contradiction
  have hplace' : folder ++ [second] = place := by
    split at hother
    · exact Option.some.inj hother
    · contradiction
  exact ne (by simpa using hplace.trans hplace'.symm)

/-! ## Files -/

/-- Dropping the entries of one key goes past a lookup of another. -/
theorem lookup_filter_ne {κ ν : Type} [BEq κ] [LawfulBEq κ] {key other : κ} (ne : other ≠ key)
    (entries : List (κ × ν)) :
    (entries.filter fun entry => entry.1 != key).lookup other = entries.lookup other := by
  induction entries with
  | nil => rfl
  | cons entry entries ih =>
    obtain ⟨name, value⟩ := entry
    by_cases hkey : name = key
    · have hother : (other == name) = false := by simpa [hkey] using ne
      rw [List.filter_cons_of_neg (by simpa using hkey), ih, List.lookup_cons, hother]
    · rw [List.filter_cons_of_pos (by simpa using hkey), List.lookup_cons, List.lookup_cons, ih]

/-- A key that no entry has is not found. -/
theorem lookup_eq_none_of_notMem {κ ν : Type} [BEq κ] [LawfulBEq κ] {key : κ}
    {entries : List (κ × ν)} (absent : key ∉ entries.map Prod.fst) : entries.lookup key = none := by
  rw [List.lookup_eq_none_iff]
  intro entry hentry
  rw [bne_iff_ne]
  exact fun same => absent (same ▸ List.mem_map_of_mem hentry)

theorem contents?_putFile (disk : Disk) (place : Place) (contents : ByteArray) :
    (disk.putFile place contents).contents? place = some contents :=
  List.lookup_cons_self

/-- Writing a file changes its own place alone. -/
theorem contents?_putFile_of_ne (disk : Disk) {place other : Place} (ne : other ≠ place)
    (contents : ByteArray) :
    (disk.putFile place contents).contents? other = disk.contents? other := by
  have hne : (other == place) = false := by simpa using ne
  unfold contents? putFile
  rw [List.lookup_cons, hne]
  exact lookup_filter_ne ne disk.files

/-- A path leads to a file with these contents. -/
def Holds (disk : Disk) (path : String) (contents : ByteArray) : Prop :=
  ∃ place, disk.locate path = some place ∧ disk.isDirectory place = false ∧
    disk.contents? place = some contents

/-! ## Operations -/

/-- Without planned faults no operation fails, and nothing is used up. -/
theorem draw_of_faults (calm : disk.faults = []) : disk.draw = (false, disk) := by
  cases disk
  cases calm
  rfl

/-- Looking at a path changes no file. -/
theorem act_look {path : String} {found : Found}
    (done : disk.act (Files.look path) = (found, left)) :
    SameFiles disk left ∧ left.staged = disk.staged := by
  have hlook : disk.look path = (found, left) := done
  unfold look draw at hlook
  split at hlook
  · obtain ⟨-, rfl⟩ := Prod.mk.inj hlook
    exact ⟨.refl disk, rfl⟩
  · split at hlook
    · obtain ⟨-, rfl⟩ := Prod.mk.inj hlook
      exact ⟨.refl disk, rfl⟩
    · split at hlook
      · obtain ⟨-, rfl⟩ := Prod.mk.inj hlook
        exact ⟨.refl disk, rfl⟩
      · obtain ⟨-, rfl⟩ := Prod.mk.inj hlook
        exact ⟨⟨⟨rfl, rfl⟩, rfl⟩, rfl⟩

/-- A file that is there is seen with its contents. -/
theorem look_of_holds {path : String} {contents : ByteArray} (calm : disk.faults = [])
    (holds : disk.Holds path contents) : disk.look path = (.file (some contents), disk) := by
  obtain ⟨place, hplace, hfile, hcontents⟩ := holds
  unfold look
  rw [hplace]
  simp only [hfile, hcontents, draw_of_faults calm, Bool.false_eq_true, if_false]

/-- Where a file holds a text, an action that looks at it goes on with that text. -/
theorem run_look_bind_of_holds {path text : String} (calm : disk.faults = [])
    (holds : disk.Holds path text.toUTF8) (next : Found → ExceptT Error (StateM Disk) α) :
    disk.run (liftM (Files.look path : StateM Disk Found) >>= next) =
      disk.run (next (.file (some text.toUTF8))) := by
  have hlook : disk.act (Files.look path) = (Found.file (some text.toUTF8), disk) :=
    look_of_holds calm holds
  rw [run_bind, run_lift, hlook]

/-- A file that holds a text is read. -/
theorem run_readText_of_holds {path text : String} (calm : disk.faults = [])
    (holds : disk.Holds path text.toUTF8) :
    disk.run (Files.readText path) = (.ok text, disk) := by
  unfold Files.readText
  rw [run_look_bind_of_holds calm holds, Found.text_file, run_except]

/-- The number of the next staged file is above those in use. -/
theorem lt_nextNumber {file : ℕ × ByteArray} (member : file ∈ disk.staged) :
    file.1 < disk.nextNumber := by
  unfold nextNumber
  generalize disk.staged = files at member
  -- the maximum is folded from the front, so the last file is the last to count
  induction files using List.reverseRecOn with
  | nil => simp at member
  | append_singleton files last ih =>
    rw [List.foldl_append, List.foldl_cons, List.foldl_nil]
    rcases List.mem_append.1 member with hmem | hmem
    · exact Nat.lt_of_lt_of_le (ih hmem) (Nat.le_max_left _ _)
    · rw [List.mem_singleton.1 hmem]
      exact Nat.le_max_right _ _

/-- A file that is staged gets a number of its own. -/
theorem stage_eq_some {directory : String} {contents : ByteArray} {number : ℕ}
    (done : disk.stage directory contents = (some number, left)) :
    SameFiles disk left ∧ left.staged = (number, contents) :: disk.staged ∧
      number ∉ disk.staged.map Prod.fst := by
  unfold stage draw at done
  simp only at done
  split at done
  · simp at done
  · rw [Prod.mk.injEq, Option.some.injEq] at done
    obtain ⟨rfl, rfl⟩ := done
    refine ⟨⟨⟨rfl, rfl⟩, rfl⟩, rfl, ?_⟩
    intro hmem
    obtain ⟨file, hfile, hnumber⟩ := List.mem_map.1 hmem
    have hlt := lt_nextNumber hfile
    rw [hnumber] at hlt
    exact Nat.lt_irrefl _ hlt

/-- What is left after what was staged under a number is put into a place: the place holds it, and
all else stays. -/
structure Replaced (number : ℕ) (contents : ByteArray) (place : Place) (disk left : Disk) :
    Prop where
  source : disk.staged.lookup number = some contents
  free : disk.isDirectory place = false
  same : SameFolders disk left
  held : left.contents? place = some contents
  others : ∀ other ≠ place, left.contents? other = disk.contents? other
  staged : ∀ other ≠ number, left.staged.lookup other = disk.staged.lookup other

/-- A successful replacement is one staged file put into the place of its target. -/
theorem replace_eq_true {number : ℕ} {target : String}
    (done : disk.replace number target = (true, left)) :
    ∃ contents place, disk.locate target = some place ∧
      Replaced number contents place disk left := by
  have hdrawn : SameFolders disk { disk with faults := disk.faults.drop 1 } := ⟨rfl, rfl⟩
  unfold replace draw at done
  simp only [hdrawn.locate, hdrawn.isDirectory] at done
  split at done
  · next contents place hcontents hplace =>
    split at done
    · simp at done
    · next hfree =>
      rw [Prod.mk.injEq] at done
      obtain ⟨-, rfl⟩ := done
      rw [Bool.or_eq_true, not_or, Bool.not_eq_true, Bool.not_eq_true] at hfree
      refine ⟨contents, place, hplace, hcontents, hfree.2, ⟨rfl, rfl⟩, ?_, ?_, ?_⟩
      · exact contents?_putFile _ place contents
      · exact fun other hne => contents?_putFile_of_ne _ hne contents
      · exact fun other hne => lookup_filter_ne hne disk.staged
  · simp at done

end Disk

end SheetSchema
