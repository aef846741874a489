import SheetSchema.Proofs.Files.Undo

/-!
# Where documents go

Without links a path can only lead to one place, which its parts spell out. Documents that are
written into a directory are the files of that place, and nothing else is written.
-/

namespace SheetSchema

namespace Disk

variable {disk left : Disk}

/-- The place that one part of a path leads to. -/
def follow (place : Place) (part : String) : Place :=
  if part = "" ∨ part = "." then place
  else if part = ".." then place.dropLast
  else place ++ [part]

/-- The place that the parts of a path spell out. -/
def destination (disk : Disk) (path : String) : Place :=
  (Path.parts path).foldl follow (disk.start path)

theorem destination_of_current (same : left.current = disk.current) (path : String) :
    left.destination path = disk.destination path := by
  unfold destination start
  rw [same]

/-- A path that leads somewhere leads to the place that its parts spell out. -/
theorem foldl_follow_of_walk {parts : List String} {start place : Place}
    (walked : disk.walk start parts = some place) : parts.foldl follow start = place := by
  induction parts generalizing start with
  | nil => exact Option.some.inj walked
  | cons part parts ih =>
    rw [walk] at walked
    rw [List.foldl_cons, follow]
    split at walked
    · contradiction
    · split at walked
      · next hhere =>
        rw [if_pos hhere]
        exact ih walked
      · next hhere =>
        rw [if_neg hhere]
        split at walked
        · next hup =>
          rw [if_pos hup]
          exact ih walked
        · next hup =>
          rw [if_neg hup]
          split at walked
          · exact ih walked
          · contradiction

theorem destination_of_folder? {directory : String} {folder : Place}
    (found : disk.folder? directory = some folder) : disk.destination directory = folder := by
  have hfolder := foldl_follow_of_walk found
  unfold destination
  rcases Path.parts_eq_folderParts directory with hparts | hparts
  · rw [hparts]
    exact hfolder
  · rw [hparts, List.foldl_append, hfolder]
    rfl

/-- A name in a directory leads to the place of that name in the directory. -/
theorem eq_of_locate_join {name directory : String} {place : Place} (plain : Path.IsPlain name)
    (found : disk.locate (Path.join directory name) = some place) :
    place = disk.destination directory ++ [name] := by
  rw [locate_join plain, Option.bind_eq_some_iff] at found
  obtain ⟨folder, hfolder, hplace⟩ := found
  split at hplace
  · rw [destination_of_folder? hfolder]
    exact (Option.some.inj hplace).symm
  · contradiction

end Disk

namespace Documents

variable {directory : String} {disk left : Disk}

/-- Documents with plain names that differ are the files of the directory after they are written,
and all other places have the files that they had. -/
theorem file?_of_writeAll {documents : List (String × String)} {paths : List String}
    (plain : ∀ document ∈ documents, Path.IsPlain document.1)
    (nodup : (documents.map Prod.fst).Nodup)
    (done : disk.run (writeAll directory documents) = (.ok paths, left)) :
    left.current = disk.current ∧
      (∀ document ∈ documents,
        left.file? (disk.destination directory ++ [document.1]) = some document.2.toUTF8) ∧
      Disk.ChangesOnly (disk.destination directory) (documents.map Prod.fst) disk left := by
  obtain ⟨made, staged, replacements, hcreated, hstaging, hreplacing⟩ :=
    replacing_of_writeAll plain nodup done
  obtain ⟨hkept, hmade⟩ := keepsFiles_of_createDirectories hcreated
  have hstaged : staged.current = disk.current := hstaging.same.current.trans hmade
  have hcurrent : left.current = disk.current := hreplacing.same.current.trans hstaged
  refine ⟨hcurrent, ?_, ?_⟩
  · intro document hdocument
    obtain ⟨place, hplace, hfile, hcontents⟩ :=
      holds_of_writeAll plain nodup done document hdocument
    have hspelled := Disk.eq_of_locate_join (plain document hdocument) hplace
    rw [Disk.destination_of_current hcurrent] at hspelled
    rw [← hspelled, Disk.file?, hfile, hcontents]
    rfl
  · intro place hne
    -- no target leads to the place, so it is not touched by replacing
    have hother : left.contents? place = staged.contents? place := by
      refine hreplacing.others place fun replacement hreplacement hplace => ?_
      obtain ⟨document, hdocument, htarget, -⟩ :=
        exists_mem_of_forall₂ hstaging.each.flip hreplacement
      rw [htarget] at hplace
      have hspelled := Disk.eq_of_locate_join (plain document hdocument) hplace
      rw [Disk.destination_of_current hstaged] at hspelled
      exact hne document.1 (List.mem_map_of_mem hdocument) hspelled
    calc left.file? place
        = staged.file? place := hreplacing.same.file?_eq hother
      _ = made.file? place := hstaging.same.keepsFiles place
      _ = disk.file? place := hkept place

end Documents

end SheetSchema
