import SheetSchema.Proofs.Files.Disk

/-!
# Files at places

Which file is at a place, and what the operations do to it. Most keep all files. Directories are
only created where there is no file, so none is lost below a new directory, and restoring a file
changes the place of its target alone.
-/

namespace SheetSchema

/-- Contents that were found. -/
def Found.contents? : Found → Option ByteArray
  | file contents => contents
  | _ => none

namespace Disk

variable {disk left : Disk}

/-- Contents of the file at a place; a directory is no file. -/
def file? (disk : Disk) (place : Place) : Option ByteArray :=
  if disk.isDirectory place then none else disk.contents? place

/-- Contents of the file that a path leads to. -/
def fileAt? (disk : Disk) (path : String) : Option ByteArray :=
  (disk.locate path).bind disk.file?

/-- All places have the files that they had. -/
def KeepsFiles (disk left : Disk) : Prop := ∀ place, left.file? place = disk.file? place

/-- Places other than those of some names in a directory have the files that they had. -/
def ChangesOnly (folder : Place) (names : List String) (disk left : Disk) : Prop :=
  ∀ place, (∀ name ∈ names, place ≠ folder ++ [name]) → left.file? place = disk.file? place

/-- A place is seen alike where its directories and its contents are the same. -/
theorem SameFolders.file?_eq (same : SameFolders disk left) {place : Place}
    (contents : left.contents? place = disk.contents? place) :
    left.file? place = disk.file? place := by
  unfold file?
  rw [same.isDirectory, contents]

theorem SameFiles.keepsFiles (same : SameFiles disk left) : KeepsFiles disk left := by
  intro place
  refine same.toSameFolders.file?_eq ?_
  unfold contents?
  rw [same.files]

/-- Where the files are the same, every path shows the same. -/
theorem SameFiles.fileAt?_eq (same : SameFiles disk left) (path : String) :
    left.fileAt? path = disk.fileAt? path := by
  unfold fileAt?
  rw [same.locate]
  exact Option.bind_congr fun place _ => same.keepsFiles place

theorem KeepsFiles.trans {middle : Disk} (first : KeepsFiles disk middle)
    (second : KeepsFiles middle left) : KeepsFiles disk left :=
  fun place => (second place).trans (first place)

/-- What changes no file changes no file beyond some names. -/
theorem KeepsFiles.changesOnly (keeps : KeepsFiles disk left) (folder : Place)
    (names : List String) : ChangesOnly folder names disk left :=
  fun place _ => keeps place

theorem ChangesOnly.trans {folder : Place} {names : List String} {middle : Disk}
    (first : ChangesOnly folder names disk middle) (second : ChangesOnly folder names middle left) :
    ChangesOnly folder names disk left :=
  fun place hne => (second place hne).trans (first place hne)

/-- A document of another name is kept. -/
theorem ChangesOnly.file?_eq {folder : Place} {names : List String}
    (changes : ChangesOnly folder names disk left) {name : String} (other : name ∉ names) :
    left.file? (folder ++ [name]) = disk.file? (folder ++ [name]) := by
  refine changes _ fun changed hchanged hsame => ?_
  obtain rfl : name = changed := by simpa using hsame
  exact other hchanged

/-! ## Operations that keep all files -/

/-- Dropping a staged file touches no other. -/
theorem sameFiles_discard (disk : Disk) (number : ℕ) : SameFiles disk (disk.discard number) :=
  ⟨⟨rfl, rfl⟩, rfl⟩

theorem sameFiles_look (disk : Disk) (path : String) : SameFiles disk (disk.look path).2 := by
  have hlook : disk.act (Files.look path) = ((disk.look path).1, (disk.look path).2) := rfl
  exact (act_look hlook).1

theorem sameFiles_openSpreadsheet (disk : Disk) (path : String) :
    SameFiles disk (disk.openSpreadsheet path).2 := by
  have hlook := sameFiles_look disk path
  unfold openSpreadsheet
  split
  · next hfound => rwa [hfound] at hlook
  · next hfound => rwa [hfound] at hlook

/-- A staged file stands beside the tree until it is put in place. -/
theorem sameFiles_of_stage {directory : String} {contents : ByteArray} {file? : Option ℕ}
    (done : disk.stage directory contents = (file?, left)) : SameFiles disk left := by
  unfold stage draw at done
  simp only at done
  split at done
  · obtain ⟨-, rfl⟩ := Prod.mk.inj done
    exact ⟨⟨rfl, rfl⟩, rfl⟩
  · obtain ⟨-, rfl⟩ := Prod.mk.inj done
    exact ⟨⟨rfl, rfl⟩, rfl⟩

/-- A target that is not replaced leaves the files as they are. -/
theorem sameFiles_of_replace_eq_false {number : ℕ} {target : String}
    (done : disk.replace number target = (false, left)) : SameFiles disk left := by
  unfold replace draw at done
  simp only at done
  split at done
  · split at done
    · obtain ⟨-, rfl⟩ := Prod.mk.inj done
      exact ⟨⟨rfl, rfl⟩, rfl⟩
    · simp at done
  · obtain ⟨-, rfl⟩ := Prod.mk.inj done
    exact ⟨⟨rfl, rfl⟩, rfl⟩

/-- A directory more hides no file, as there was none in its place. -/
theorem keepsFiles_addDirectory {place : Place} (vacant : disk.contents? place = none) :
    KeepsFiles disk { disk with directories := disk.directories ++ [place] } := by
  intro other
  by_cases h : other = place
  · subst h
    have hnone : disk.file? other = none := by
      unfold file?
      rw [vacant, ite_self]
    rw [hnone]
    unfold file?
    show (if _ then none else disk.contents? other) = none
    rw [vacant, ite_self]
  · have hdirectory : ({ disk with directories := disk.directories ++ [place] } : Disk).isDirectory
        other = disk.isDirectory other := by
      unfold isDirectory
      simp [h]
    unfold file?
    rw [hdirectory]
    rfl

/-- Creating directories keeps all files, and paths count from where they did. -/
theorem keepsFiles_createAlong (place : Place) (parts : List String) :
    KeepsFiles disk (disk.createAlong place parts).2 ∧
      (disk.createAlong place parts).2.current = disk.current := by
  induction parts generalizing disk place with
  | nil => exact ⟨fun _ => rfl, rfl⟩
  | cons part parts ih =>
    rw [createAlong]
    split
    · exact ih place
    · split
      · exact ih place.dropLast
      · simp only
        split
        · exact ih (place ++ [part])
        · split
          · next hvacant =>
            rw [Bool.and_eq_true, Option.isNone_iff_eq_none] at hvacant
            obtain ⟨hkeeps, hcurrent⟩ := ih (place ++ [part])
            exact ⟨(keepsFiles_addDirectory hvacant.2).trans hkeeps, hcurrent⟩
          · exact ⟨fun _ => rfl, rfl⟩

/-- Creating directories hides no file, and does not change the current one. -/
theorem keepsFiles_createDirectories (disk : Disk) (path : String) :
    KeepsFiles disk (disk.createDirectories path).2 ∧
      (disk.createDirectories path).2.current = disk.current := by
  have hdrawn : KeepsFiles disk disk.draw.2 := fun _ => rfl
  unfold createDirectories
  simp only
  split
  · exact ⟨hdrawn, rfl⟩
  · obtain ⟨hkeeps, hcurrent⟩ := keepsFiles_createAlong (disk.draw.2.start path) (Path.parts path)
    exact ⟨hdrawn.trans hkeeps, hcurrent⟩

/-! ## What is seen -/

/-- Looking at a path shows the file that it leads to, unless that cannot be read. -/
theorem fileAt?_of_look {path : String} {found : Found}
    (done : disk.act (Files.look path) = (found, left)) :
    found = .file none ∨ disk.fileAt? path = found.contents? := by
  have hlook : disk.look path = (found, left) := done
  unfold look draw at hlook
  unfold fileAt? file?
  split at hlook
  · next hnone =>
    obtain ⟨rfl, -⟩ := Prod.mk.inj hlook
    exact Or.inr (by rw [hnone]; rfl)
  · next place hplace =>
    rw [hplace, Option.bind_some]
    split at hlook
    · next hdirectory =>
      obtain ⟨rfl, -⟩ := Prod.mk.inj hlook
      exact Or.inr (by rw [if_pos hdirectory]; rfl)
    · next hfile =>
      rw [if_neg hfile]
      split at hlook
      · next hnone =>
        obtain ⟨rfl, -⟩ := Prod.mk.inj hlook
        exact Or.inr hnone
      · next contents hsome =>
        obtain ⟨rfl, -⟩ := Prod.mk.inj hlook
        cases disk.faults.headD false with
        | true => exact Or.inl rfl
        | false => exact Or.inr hsome

/-! ## Files that are put and taken away -/

/-- A file that is written where there is no directory is seen. -/
theorem file?_putFile {place : Place} {contents : ByteArray}
    (free : disk.isDirectory place = false) :
    (disk.putFile place contents).file? place = some contents := by
  have hsame : SameFolders disk (disk.putFile place contents) := ⟨rfl, rfl⟩
  unfold file?
  rw [hsame.isDirectory, free, contents?_putFile]
  rfl

/-- Writing a file is seen at its own place only. -/
theorem file?_putFile_of_ne {place other : Place} {contents : ByteArray} (ne : other ≠ place) :
    (disk.putFile place contents).file? other = disk.file? other := by
  have hsame : SameFolders disk (disk.putFile place contents) := ⟨rfl, rfl⟩
  exact hsame.file?_eq (contents?_putFile_of_ne disk ne contents)

/-- A file that is taken away is seen no more. -/
theorem file?_dropFile (disk : Disk) (place : Place) :
    (disk.dropFile place).file? place = none := by
  have hnone : (disk.dropFile place).contents? place = none := by
    refine lookup_eq_none_of_notMem fun hmem => ?_
    obtain ⟨entry, hentry, hplace⟩ := List.mem_map.1 hmem
    have hkept := (List.mem_filter.1 hentry).2
    simp [hplace] at hkept
  unfold file?
  rw [hnone, ite_self]

/-- Taking a file away is seen at its own place only. -/
theorem file?_dropFile_of_ne {place other : Place} (ne : other ≠ place) :
    (disk.dropFile place).file? other = disk.file? other := by
  have hsame : SameFolders disk (disk.dropFile place) := ⟨rfl, rfl⟩
  exact hsame.file?_eq (lookup_filter_ne ne disk.files)

theorem Replaced.file?_of_ne {number : ℕ} {contents : ByteArray} {place other : Place}
    (replaced : Replaced number contents place disk left) (ne : other ≠ place) :
    left.file? other = disk.file? other :=
  replaced.same.file?_eq (replaced.others other ne)

end Disk

end SheetSchema
