import SheetSchema.Documents
import SheetSchema.Proofs.Files.Contents

/-!
# Ways in which writing documents ends

Documents are written by four procedures, and each of them may fail at any of its operations. How
each of them may end is said here once, with the disks that it passes through, so that what holds
afterwards is a matter of cases.
-/

namespace SheetSchema.Documents

variable {directory : String} {disk left : Disk}

/-! ## Staging -/

/-- How staging a document ends: its file is not staged, or its target cannot be read and the file is
dropped again, or the file is staged and the target is seen. -/
inductive StageDocumentEnds (directory name text : String) (disk : Disk) :
    Option (Replacement ℕ) → Disk → Prop
  | unstaged {left : Disk} (stage : disk.stage directory text.toUTF8 = (none, left)) :
      StageDocumentEnds directory name text disk none left
  | unread {file : ℕ} {staged looked : Disk}
      (stage : disk.stage directory text.toUTF8 = (some file, staged))
      (look : staged.look (Path.join directory name) = (.file none, looked)) :
      StageDocumentEnds directory name text disk none (looked.discard file)
  | seen {file : ℕ} {found : Found} {staged left : Disk}
      (stage : disk.stage directory text.toUTF8 = (some file, staged))
      (look : staged.look (Path.join directory name) = (found, left))
      (readable : found ≠ .file none) :
      StageDocumentEnds directory name text disk
        (some ⟨Path.join directory name, file, found.contents?⟩) left

theorem stageDocument_ends {name text : String} {result : Option (Replacement ℕ)}
    (done : disk.act (stageDocument directory name text) = (result, left)) :
    StageDocumentEnds directory name text disk result left := by
  obtain ⟨file?, staged, hstage, hrest⟩ := Disk.act_bind_eq_iff.1 done
  cases file? with
  | none =>
    obtain ⟨rfl, rfl⟩ := Disk.act_pure_eq_iff.1 hrest
    exact .unstaged hstage
  | some file =>
    obtain ⟨found, looked, hlook, hfound⟩ := Disk.act_bind_eq_iff.1 hrest
    cases found with
    | missing =>
      obtain ⟨rfl, rfl⟩ := Disk.act_pure_eq_iff.1 hfound
      exact .seen hstage hlook (by simp)
    | directory =>
      obtain ⟨rfl, rfl⟩ := Disk.act_pure_eq_iff.1 hfound
      exact .seen hstage hlook (by simp)
    | file contents =>
      cases contents with
      | none =>
        obtain ⟨_, dropped, hdiscard, hnone⟩ := Disk.act_bind_eq_iff.1 hfound
        obtain ⟨rfl, rfl⟩ := Disk.act_pure_eq_iff.1 hnone
        obtain ⟨-, rfl⟩ := Prod.mk.inj hdiscard
        exact .unread hstage hlook
      | some contents =>
        obtain ⟨rfl, rfl⟩ := Disk.act_pure_eq_iff.1 hfound
        exact .seen hstage hlook (by simp)

/-- How staging a document and then others ends: the first is not staged, or one of the others is
not and the file of the first is dropped again, or all are staged. -/
inductive StageAllEnds (directory : String) (document : String × String)
    (documents : List (String × String)) (disk : Disk) :
    Option (List (Replacement ℕ)) → Disk → Prop
  | first_unstaged {left : Disk}
      (first : disk.act (stageDocument directory document.1 document.2) = (none, left)) :
      StageAllEnds directory document documents disk none left
  | rest_unstaged {replacement : Replacement ℕ} {staged others : Disk}
      (first : disk.act (stageDocument directory document.1 document.2) =
        (some replacement, staged))
      (rest : staged.act (stageAll directory documents) = (none, others)) :
      StageAllEnds directory document documents disk none (others.discard replacement.file)
  | staged {replacement : Replacement ℕ} {replacements : List (Replacement ℕ)}
      {staged left : Disk}
      (first : disk.act (stageDocument directory document.1 document.2) =
        (some replacement, staged))
      (rest : staged.act (stageAll directory documents) = (some replacements, left)) :
      StageAllEnds directory document documents disk (some (replacement :: replacements)) left

theorem stageAll_cons_ends {document : String × String} {documents : List (String × String)}
    {result : Option (List (Replacement ℕ))}
    (done : disk.act (stageAll directory (document :: documents)) = (result, left)) :
    StageAllEnds directory document documents disk result left := by
  obtain ⟨first?, staged, hfirst, hrest⟩ := Disk.act_bind_eq_iff.1 done
  cases first? with
  | none =>
    obtain ⟨rfl, rfl⟩ := Disk.act_pure_eq_iff.1 hrest
    exact .first_unstaged hfirst
  | some first =>
    obtain ⟨rest?, others, hothers, hend⟩ := Disk.act_bind_eq_iff.1 hrest
    cases rest? with
    | none =>
      obtain ⟨_, dropped, hdiscard, hnone⟩ := Disk.act_bind_eq_iff.1 hend
      obtain ⟨rfl, rfl⟩ := Disk.act_pure_eq_iff.1 hnone
      obtain ⟨-, rfl⟩ := Prod.mk.inj hdiscard
      exact .rest_unstaged hfirst hothers
    | some rest =>
      obtain ⟨rfl, rfl⟩ := Disk.act_pure_eq_iff.1 hend
      exact .staged hfirst hothers

/-! ## Replacing -/

/-- Staged files without those of some replacements. -/
def without (replacements : List (Replacement ℕ)) (files : List (ℕ × ByteArray)) :
    List (ℕ × ByteArray) :=
  files.filter fun file => !(replacements.map Replacement.file).contains file.1

theorem without_nil (files : List (ℕ × ByteArray)) : without [] files = files := by
  simp [without]

/-- The file of the first replacement goes first or last. -/
theorem without_cons (first : Replacement ℕ) (rest : List (Replacement ℕ))
    (files : List (ℕ × ByteArray)) :
    without (first :: rest) files = without rest (files.filter fun file => file.1 != first.file) ∧
      without (first :: rest) files =
        (without rest files).filter fun file => file.1 != first.file := by
  unfold without
  rw [List.filter_filter, List.filter_filter]
  constructor
  · refine List.filter_congr fun file _ => ?_
    rw [List.map_cons, List.contains_cons, Bool.not_or, Bool.and_comm]
    rfl
  · refine List.filter_congr fun file _ => ?_
    rw [List.map_cons, List.contains_cons, Bool.not_or]
    rfl

/-- Discarding drops the files of the replacements and changes nothing else. -/
theorem act_forM_discard {replacements : List (Replacement ℕ)}
    (done : disk.act (replacements.forM fun replacement => Files.discard replacement.file) =
      ((), left)) : left = { disk with staged := without replacements disk.staged } := by
  induction replacements generalizing disk with
  | nil =>
    obtain ⟨-, rfl⟩ := Prod.mk.inj done
    rw [without_nil]
  | cons first rest ih =>
    obtain ⟨_, dropped, hdiscard, hrest⟩ := Disk.act_bind_eq_iff.1 done
    obtain ⟨-, rfl⟩ := Prod.mk.inj hdiscard
    rw [ih hrest, (without_cons first rest _).1]
    rfl

/-- How replacing a target and then others ends: the first is not replaced and all staged files are
dropped, or one of the others is not and the first gets back what it held, or all are replaced. -/
inductive ReplaceAllEnds (first : Replacement ℕ) (rest : List (Replacement ℕ)) (disk : Disk) :
    Option String → Disk → Prop
  | first_kept {middle : Disk}
      (replace : disk.replace first.file first.target = (false, middle)) :
      ReplaceAllEnds first rest disk (some first.target)
        { middle with staged := without (first :: rest) middle.staged }
  | rest_kept {failed : String} {middle others left : Disk}
      (replace : disk.replace first.file first.target = (true, middle))
      (later : middle.act (replaceAll rest) = (some failed, others))
      (restored : others.act (restore first) = ((), left)) :
      ReplaceAllEnds first rest disk (some failed) left
  | replaced {middle left : Disk}
      (replace : disk.replace first.file first.target = (true, middle))
      (later : middle.act (replaceAll rest) = (none, left)) :
      ReplaceAllEnds first rest disk none left

theorem replaceAll_cons_ends {first : Replacement ℕ} {rest : List (Replacement ℕ)}
    {failed? : Option String}
    (done : disk.act (replaceAll (first :: rest)) = (failed?, left)) :
    ReplaceAllEnds first rest disk failed? left := by
  obtain ⟨replaced, middle, hreplace, hnext⟩ := Disk.act_bind_eq_iff.1 done
  cases replaced with
  | false =>
    obtain ⟨_, dropped, hdropped, hend⟩ := Disk.act_bind_eq_iff.1 hnext
    obtain ⟨rfl, rfl⟩ := Disk.act_pure_eq_iff.1 hend
    obtain rfl := act_forM_discard hdropped
    exact .first_kept hreplace
  | true =>
    obtain ⟨later?, others, hothers, hend⟩ := Disk.act_bind_eq_iff.1 hnext
    cases later? with
    | none =>
      obtain ⟨rfl, rfl⟩ := Disk.act_pure_eq_iff.1 hend
      exact .replaced hreplace hothers
    | some failed =>
      obtain ⟨_, restored, hrestored, hdone⟩ := Disk.act_bind_eq_iff.1 hend
      obtain ⟨rfl, rfl⟩ := Disk.act_pure_eq_iff.1 hdone
      exact .rest_kept hreplace hothers hrestored

/-! ## Writing -/

/-- How writing documents ends: their directory cannot be created, or one of them cannot be staged,
or a target cannot be replaced, or all targets are replaced. -/
inductive WriteAllEnds (directory : String) (documents : List (String × String)) (disk : Disk) :
    Except Error (List String) → Disk → Prop
  | no_directory {left : Disk}
      (create : disk.act (Files.createDirectories directory) = (false, left)) :
      WriteAllEnds directory documents disk (.error .io) left
  | unstaged {made left : Disk}
      (create : disk.act (Files.createDirectories directory) = (true, made))
      (stage : made.act (stageAll directory documents) = (none, left)) :
      WriteAllEnds directory documents disk (.error .io) left
  | kept {replacements : List (Replacement ℕ)} {failed : String} {made staged left : Disk}
      (create : disk.act (Files.createDirectories directory) = (true, made))
      (stage : made.act (stageAll directory documents) = (some replacements, staged))
      (replace : staged.act (replaceAll replacements) = (some failed, left)) :
      WriteAllEnds directory documents disk (.error (.notPersisted failed)) left
  | written {replacements : List (Replacement ℕ)} {made staged left : Disk}
      (create : disk.act (Files.createDirectories directory) = (true, made))
      (stage : made.act (stageAll directory documents) = (some replacements, staged))
      (replace : staged.act (replaceAll replacements) = (none, left)) :
      WriteAllEnds directory documents disk (.ok (replacements.map Replacement.target)) left

theorem writeAll_ends {documents : List (String × String)} {result : Except Error (List String)}
    (done : disk.run (writeAll directory documents) = (result, left)) :
    WriteAllEnds directory documents disk result left := by
  unfold writeAll at done
  obtain ⟨created, made, hcreated, hmade⟩ := Disk.run_lift_bind_eq_iff.1 done
  cases created with
  | false =>
    obtain ⟨rfl, rfl⟩ := Prod.mk.inj hmade
    exact .no_directory hcreated
  | true =>
    obtain ⟨staged?, staged, hstaged, hrest⟩ := Disk.run_lift_bind_eq_iff.1 hmade
    cases staged? with
    | none =>
      obtain ⟨rfl, rfl⟩ := Prod.mk.inj hrest
      exact .unstaged hcreated hstaged
    | some replacements =>
      obtain ⟨failed?, replaced, hreplaced, hend⟩ := Disk.run_lift_bind_eq_iff.1 hrest
      cases failed? with
      | none =>
        obtain ⟨rfl, rfl⟩ := Prod.mk.inj hend
        exact .written hcreated hstaged hreplaced
      | some failed =>
        obtain ⟨rfl, rfl⟩ := Prod.mk.inj hend
        exact .kept hcreated hstaged hreplaced

end SheetSchema.Documents
