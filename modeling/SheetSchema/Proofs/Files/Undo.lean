import SheetSchema.Proofs.Files.Documents

/-!
# Documents that are not written

Writing documents that fails leaves all files as they were, wherever it fails. What counts is that
every target gets back what was seen before any of them was replaced: where two targets lead to one
place, the one that is restored last has seen what was there at first.
-/

namespace SheetSchema.Documents

open Disk (SameFolders SameFiles KeepsFiles)

variable {directory : String} {disk left : Disk}

/-! ## Staging -/

/-- Staging a document changes no file. -/
theorem sameFiles_stageDocument {name text : String} {result : Option (Replacement ℕ)}
    (done : disk.act (stageDocument directory name text) = (result, left)) :
    SameFiles disk left := by
  cases stageDocument_ends done with
  | unstaged hstage => exact Disk.sameFiles_of_stage hstage
  | unread hstage hlook =>
    have hlooked := (Disk.sameFiles_of_stage hstage).trans (Disk.act_look hlook).1
    exact hlooked.trans (Disk.sameFiles_discard _ _)
  | seen hstage hlook _ => exact (Disk.sameFiles_of_stage hstage).trans (Disk.act_look hlook).1

theorem sameFiles_stageAll {documents : List (String × String)}
    {result : Option (List (Replacement ℕ))}
    (done : disk.act (stageAll directory documents) = (result, left)) : SameFiles disk left := by
  induction documents generalizing disk left result with
  | nil =>
    obtain ⟨-, rfl⟩ := Disk.act_pure_eq_iff.1 done
    exact .refl disk
  | cons document documents ih =>
    cases stageAll_cons_ends done with
    | first_unstaged hfirst => exact sameFiles_stageDocument hfirst
    | rest_unstaged hfirst hrest =>
      have hothers := (sameFiles_stageDocument hfirst).trans (ih hrest)
      exact hothers.trans (Disk.sameFiles_discard _ _)
    | staged hfirst hrest => exact (sameFiles_stageDocument hfirst).trans (ih hrest)

/-! ## Restoring -/

/-- Restoring a target changes its place alone, which holds again what was seen there. -/
theorem act_restore {replacement : Replacement ℕ} {place : Place}
    (found : disk.locate replacement.target = some place) (free : disk.isDirectory place = false)
    (done : disk.act (restore replacement) = ((), left)) :
    SameFolders disk left ∧ left.file? place = replacement.previous ∧
      ∀ other ≠ place, left.file? other = disk.file? other := by
  unfold restore at done
  cases hprevious : replacement.previous with
  | none =>
    rw [hprevious] at done
    have hleft : disk.remove replacement.target = left := (Prod.mk.inj done).2
    rw [Disk.remove, found] at hleft
    subst hleft
    exact ⟨⟨rfl, rfl⟩, Disk.file?_dropFile disk place, fun _ => Disk.file?_dropFile_of_ne⟩
  | some contents =>
    rw [hprevious] at done
    have hleft : disk.write replacement.target contents = left := (Prod.mk.inj done).2
    simp only [Disk.write, found, free, Bool.false_eq_true, if_false] at hleft
    subst hleft
    exact ⟨⟨rfl, rfl⟩, Disk.file?_putFile free, fun _ => Disk.file?_putFile_of_ne⟩

/-- Where a target cannot be replaced, every place has the file it had before, or the one that was
seen at first. -/
theorem replaceAll_eq_some {base : Disk} {replacements : List (Replacement ℕ)} {failed : String}
    (same : SameFolders base disk)
    (previous : ∀ replacement ∈ replacements,
      replacement.previous = base.fileAt? replacement.target)
    (done : disk.act (replaceAll replacements) = (some failed, left)) :
    SameFolders disk left ∧
      ∀ place, left.file? place = disk.file? place ∨ left.file? place = base.file? place := by
  induction replacements generalizing disk left failed with
  | nil => exact absurd (Disk.act_pure_eq_iff.1 done).1 (by simp)
  | cons first rest ih =>
    obtain ⟨hfirst, hrest⟩ := List.forall_mem_cons.1 previous
    cases replaceAll_cons_ends done with
    | @first_kept middle hreplace =>
      -- nothing is replaced from here on, and dropping what is staged changes no file
      have hsame : SameFiles disk { middle with staged := without (first :: rest) middle.staged } :=
        (Disk.sameFiles_of_replace_eq_false hreplace).trans ⟨⟨rfl, rfl⟩, rfl⟩
      exact ⟨hsame.toSameFolders, fun place => Or.inl (hsame.keepsFiles place)⟩
    | rest_kept hreplace hlater hrestored =>
      obtain ⟨contents, place, hplace, hreplaced⟩ := Disk.replace_eq_true hreplace
      obtain ⟨hfolders, hfiles⟩ := ih (same.trans hreplaced.same) hrest hlater
      have hundone := hreplaced.same.trans hfolders
      obtain ⟨hrestoredSame, hback, hothers⟩ := act_restore
        ((hundone.locate _).trans hplace) ((hundone.isDirectory _).trans hreplaced.free) hrestored
      refine ⟨hundone.trans hrestoredSame, fun other => ?_⟩
      by_cases h : other = place
      · -- the place of the first target, which is restored last
        subst h
        have hseen : base.fileAt? first.target = base.file? other := by
          unfold Disk.fileAt?
          rw [← same.locate, hplace, Option.bind_some]
        exact Or.inr (hback.trans (hfirst.trans hseen))
      · rw [hothers other h, ← hreplaced.file?_of_ne h]
        exact hfiles other

/-! ## Writing -/

theorem keepsFiles_of_createDirectories {created : Bool}
    (done : disk.act (Files.createDirectories directory) = (created, left)) :
    KeepsFiles disk left ∧ left.current = disk.current := by
  have hleft : (disk.createDirectories directory).2 = left := congrArg Prod.snd done
  have hkeeps := Disk.keepsFiles_createDirectories disk directory
  rwa [hleft] at hkeeps

/-- Writing documents that fails keeps all files, and paths count from where they did. -/
theorem keepsFiles_of_writeAll_eq_error {documents : List (String × String)} {error : Error}
    (done : disk.run (writeAll directory documents) = (.error error, left)) :
    KeepsFiles disk left ∧ left.current = disk.current := by
  cases writeAll_ends done with
  | no_directory hcreated => exact keepsFiles_of_createDirectories hcreated
  | unstaged hcreated hstaged =>
    obtain ⟨hkept, hcurrent⟩ := keepsFiles_of_createDirectories hcreated
    have hsame := sameFiles_stageAll hstaged
    exact ⟨hkept.trans hsame.keepsFiles, hsame.current.trans hcurrent⟩
  | @kept replacements _ _ staged _ hcreated hstaged hreplaced =>
    obtain ⟨hkept, hcurrent⟩ := keepsFiles_of_createDirectories hcreated
    have hsame := sameFiles_stageAll hstaged
    -- staging moves no file, so what was seen of a target while staging is still there
    have hprevious : ∀ replacement ∈ replacements,
        replacement.previous = staged.fileAt? replacement.target := by
      intro replacement hmem
      rw [hsame.fileAt?_eq]
      exact (stageAll_eq_some hstaged).previous replacement hmem
    obtain ⟨hfolders, hfiles⟩ := replaceAll_eq_some ⟨rfl, rfl⟩ hprevious hreplaced
    have hundone : KeepsFiles staged left := fun place => (hfiles place).elim id id
    exact ⟨hkept.trans (hsame.keepsFiles.trans hundone),
      hfolders.current.trans (hsame.current.trans hcurrent)⟩

end SheetSchema.Documents
