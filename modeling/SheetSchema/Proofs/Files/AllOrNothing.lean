import SheetSchema.Proofs.Files.Undo

/-!
# All documents or none

Documents that are written are all in their places afterwards, or every file is as it was. Whichever
operation fails, and whatever the names of the documents lead to, no staged file is left over: a
file that was staged is dropped, or it has taken the place of its target.
-/

namespace SheetSchema

namespace Disk

variable {disk left : Disk}

/-! ## Staged files -/

/-- Staging that fails stages nothing. -/
theorem staged_of_stage_eq_none {directory : String} {contents : ByteArray}
    (done : disk.stage directory contents = (none, left)) : left.staged = disk.staged := by
  unfold stage draw at done
  simp only at done
  split at done
  · obtain ⟨-, rfl⟩ := Prod.mk.inj done
    rfl
  · simp at done

/-- A staged file leaves the staged ones when it takes the place of its target, and only then. -/
theorem staged_of_replace {number : ℕ} {target : String} {replaced : Bool}
    (done : disk.replace number target = (replaced, left)) :
    left.staged = if replaced then disk.staged.filter fun file => file.1 != number
      else disk.staged := by
  unfold replace draw at done
  simp only at done
  split at done
  · split at done
    · obtain ⟨rfl, rfl⟩ := Prod.mk.inj done
      rfl
    · obtain ⟨rfl, rfl⟩ := Prod.mk.inj done
      rfl
  · obtain ⟨rfl, rfl⟩ := Prod.mk.inj done
    rfl

theorem staged_createAlong (place : Place) (parts : List String) :
    (disk.createAlong place parts).2.staged = disk.staged := by
  induction parts generalizing disk place with
  | nil => rfl
  | cons part parts ih =>
    rw [createAlong]
    split
    · exact ih place
    · split
      · exact ih place.dropLast
      · simp only
        split
        · exact ih (place ++ [part])
        · split
          · exact ih (place ++ [part])
          · rfl

/-- Creating directories stages nothing. -/
theorem staged_of_createDirectories {path : String} {created : Bool}
    (done : disk.act (Files.createDirectories path) = (created, left)) :
    left.staged = disk.staged := by
  have hleft : (disk.createDirectories path).2 = left := congrArg Prod.snd done
  rw [← hleft, createDirectories]
  simp only
  split
  · rfl
  · exact staged_createAlong _ _

/-- Files that go by numbers of their own. -/
theorem filter_cons_of_notMem {number : ℕ} {contents : ByteArray} {files : List (ℕ × ByteArray)}
    (unused : number ∉ files.map Prod.fst) :
    ((number, contents) :: files).filter (fun file => file.1 != number) = files := by
  rw [List.filter_cons_of_neg (by simp), List.filter_eq_self]
  intro file hfile
  rw [bne_iff_ne]
  exact fun hsame => unused (hsame ▸ List.mem_map_of_mem hfile)

end Disk

namespace Documents

open Disk (KeepsFiles)

variable {directory : String} {disk left : Disk}

/-! ## Staging -/

theorem staged_of_stageDocument_eq_none {name text : String}
    (done : disk.act (stageDocument directory name text) = (none, left)) :
    left.staged = disk.staged := by
  cases stageDocument_ends done with
  | unstaged hstage => exact Disk.staged_of_stage_eq_none hstage
  | @unread file staged looked hstage hlook =>
    -- the file that was staged is dropped again, and no other goes by its number
    obtain ⟨-, hstaged, hunused⟩ := Disk.stage_eq_some hstage
    show looked.staged.filter _ = _
    rw [(Disk.act_look hlook).2, hstaged]
    exact Disk.filter_cons_of_notMem hunused

/-- What was staged is all that is staged beside what was there before. -/
theorem without_staged_of_stageAll {documents : List (String × String)}
    {replacements : List (Replacement ℕ)}
    (done : disk.act (stageAll directory documents) = (some replacements, left)) :
    without replacements left.staged = disk.staged := by
  induction documents generalizing disk replacements with
  | nil =>
    obtain ⟨hnone, rfl⟩ := Disk.act_pure_eq_iff.1 done
    obtain rfl := Option.some.inj hnone
    exact without_nil _
  | cons document documents ih =>
    cases stageAll_cons_ends done with
    | staged hfirst hrest =>
      obtain ⟨-, -, hstaged, hunused, -⟩ := stageDocument_eq_some hfirst
      rw [(without_cons _ _ _).2, ih hrest, hstaged]
      exact Disk.filter_cons_of_notMem hunused

/-- Where one document cannot be staged, none stays staged. -/
theorem staged_of_stageAll_eq_none {documents : List (String × String)}
    (done : disk.act (stageAll directory documents) = (none, left)) :
    left.staged = disk.staged := by
  induction documents generalizing disk left with
  | nil => exact absurd (Disk.act_pure_eq_iff.1 done).1 (by simp)
  | cons document documents ih =>
    cases stageAll_cons_ends done with
    | first_unstaged hfirst => exact staged_of_stageDocument_eq_none hfirst
    | @rest_unstaged first staged others hfirst hrest =>
      obtain ⟨-, -, hstaged, hunused, -⟩ := stageDocument_eq_some hfirst
      show others.staged.filter _ = _
      rw [ih hrest, hstaged]
      exact Disk.filter_cons_of_notMem hunused

/-! ## Replacing -/

/-- Restoring touches places and no staged file. -/
theorem staged_of_restore {replacement : Replacement ℕ}
    (done : disk.act (restore replacement) = ((), left)) : left.staged = disk.staged := by
  unfold restore at done
  cases hprevious : replacement.previous with
  | none =>
    rw [hprevious] at done
    have hleft : disk.remove replacement.target = left := (Prod.mk.inj done).2
    rw [← hleft, Disk.remove]
    split <;> rfl
  | some contents =>
    rw [hprevious] at done
    have hleft : disk.write replacement.target contents = left := (Prod.mk.inj done).2
    rw [← hleft, Disk.write]
    split
    · split <;> rfl
    · rfl

/-- Whether all targets are replaced or not, none of their files stays staged. -/
theorem staged_of_replaceAll {replacements : List (Replacement ℕ)} {failed? : Option String}
    (done : disk.act (replaceAll replacements) = (failed?, left)) :
    left.staged = without replacements disk.staged := by
  induction replacements generalizing disk left failed? with
  | nil =>
    obtain ⟨-, rfl⟩ := Disk.act_pure_eq_iff.1 done
    exact (without_nil _).symm
  | cons first rest ih =>
    cases replaceAll_cons_ends done with
    | first_kept hreplace =>
      show without (first :: rest) _ = _
      rw [Disk.staged_of_replace hreplace]
      rfl
    | rest_kept hreplace hlater hrestored =>
      -- the first file is gone with its target, and undoing that stages nothing
      rw [staged_of_restore hrestored, ih hlater, Disk.staged_of_replace hreplace]
      exact (without_cons first rest _).1.symm
    | replaced hreplace hlater =>
      rw [ih hlater, Disk.staged_of_replace hreplace]
      exact (without_cons first rest _).1.symm

/-! ## Writing -/

/-- Whether writing succeeds or not, what is staged is what was staged before. -/
theorem staged_of_writeAll {documents : List (String × String)}
    {result : Except Error (List String)}
    (done : disk.run (writeAll directory documents) = (result, left)) :
    left.staged = disk.staged := by
  cases writeAll_ends done with
  | no_directory hcreated => exact Disk.staged_of_createDirectories hcreated
  | unstaged hcreated hstaged =>
    rw [staged_of_stageAll_eq_none hstaged, Disk.staged_of_createDirectories hcreated]
  | kept hcreated hstaged hreplaced =>
    rw [staged_of_replaceAll hreplaced, without_staged_of_stageAll hstaged,
      Disk.staged_of_createDirectories hcreated]
  | written hcreated hstaged hreplaced =>
    rw [staged_of_replaceAll hreplaced, without_staged_of_stageAll hstaged,
      Disk.staged_of_createDirectories hcreated]

/-- What is left after documents are written: a target holds the text of its document unless a later
document goes to the same place, and all other places have the files that they had. -/
structure Written (directory : String) (documents : List (String × String)) (disk left : Disk) :
    Prop where
  last : ∀ before document after, documents = before ++ document :: after →
    (∀ later ∈ after, left.locate (Path.join directory later.1) ≠
      left.locate (Path.join directory document.1)) →
    left.Holds (Path.join directory document.1) document.2.toUTF8
  others : ∀ place,
    (∀ document ∈ documents, left.locate (Path.join directory document.1) ≠ some place) →
    left.file? place = disk.file? place
  staged : left.staged = disk.staged

/-- How writing documents ends: all of them are written, and the result lists their targets in order,
or all files are as they were. -/
inductive AllOrNothing (directory : String) (documents : List (String × String)) (disk : Disk) :
    Except Error (List String) × Disk → Prop
  | all {left : Disk} (written : Written directory documents disk left) :
      AllOrNothing directory documents disk
        (.ok (documents.map fun document => Path.join directory document.1), left)
  | nothing {error : Error} {left : Disk} (files : KeepsFiles disk left)
      (staged : left.staged = disk.staged) :
      AllOrNothing directory documents disk (.error error, left)

/-- Where writing succeeds, every document is in its place. -/
theorem written_of_writeAll {documents : List (String × String)} {paths : List String}
    (done : disk.run (writeAll directory documents) = (.ok paths, left)) :
    Written directory documents disk left ∧
      paths = documents.map fun document => Path.join directory document.1 := by
  cases writeAll_ends done with
  | @written replacements made staged left hcreated hstaged hreplaced =>
    have hstaging := stageAll_eq_some hstaged
    obtain ⟨hoverwriting, -⟩ := replaceAll_eq_none hstaging.nodup hreplaced
    refine ⟨⟨?_, ?_, staged_of_writeAll done⟩, hstaging.targets⟩
    · rintro before document after rfl hlater
      -- the replacements of later documents are the later replacements
      obtain ⟨first, replacement, rest, rfl, ⟨htarget, htext⟩, hrest⟩ :=
        exists_split_of_forall₂ hstaging.each
      rw [← htarget] at hlater ⊢
      refine hoverwriting.last first replacement rest rfl (fun later hmem => ?_) _ htext
      obtain ⟨other, hother, hlaterTarget, -⟩ := exists_mem_of_forall₂ hrest.flip hmem
      rw [hlaterTarget, ← hoverwriting.same.locate, ← hoverwriting.same.locate]
      exact hlater other hother
    · intro place hne
      have hother : left.contents? place = staged.contents? place := by
        refine hoverwriting.others place fun replacement hreplacement hplace => ?_
        obtain ⟨document, hdocument, htarget, -⟩ :=
          exists_mem_of_forall₂ hstaging.each.flip hreplacement
        rw [htarget, ← hoverwriting.same.locate] at hplace
        exact hne document hdocument hplace
      calc left.file? place
          = staged.file? place := hoverwriting.same.file?_eq hother
        _ = made.file? place := hstaging.same.keepsFiles place
        _ = disk.file? place := (keepsFiles_of_createDirectories hcreated).1 place

/-- Writing documents is all or nothing, whichever operations fail: either every target holds the
text of the last document that goes there and no other file is changed, or no file is. -/
theorem writes_all_or_nothing (disk : Disk) (directory : String)
    (documents : List (String × String)) :
    AllOrNothing directory documents disk (disk.run (writeAll directory documents)) := by
  rcases hdone : disk.run (writeAll directory documents) with ⟨error | paths, left⟩
  · exact .nothing (keepsFiles_of_writeAll_eq_error hdone).1 (staged_of_writeAll hdone)
  · obtain ⟨hwritten, rfl⟩ := written_of_writeAll hdone
    exact .all hwritten

end Documents

end SheetSchema
