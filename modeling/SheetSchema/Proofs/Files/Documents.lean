import SheetSchema.Proofs.Blocks
import SheetSchema.Proofs.Files.Steps

/-!
# Documents that are written

Documents that are written hold what was written, all of them, and are read back as long as no
operation fails.
-/

namespace SheetSchema.Documents

open Disk (SameFolders SameFiles)

variable {directory : String} {disk left : Disk}

/-! ## Staging -/

/-- A document that is staged goes by a number of its own, and what its target holds is known. -/
theorem stageDocument_eq_some {name text : String} {replacement : Replacement ℕ}
    (done : disk.act (stageDocument directory name text) = (some replacement, left)) :
    SameFiles disk left ∧ replacement.target = Path.join directory name ∧
      left.staged = (replacement.file, text.toUTF8) :: disk.staged ∧
      replacement.file ∉ disk.staged.map Prod.fst ∧
      replacement.previous = disk.fileAt? replacement.target := by
  cases stageDocument_ends done with
  | seen hstage hlook hread =>
    obtain ⟨hsame, hstaged, hnew⟩ := Disk.stage_eq_some hstage
    obtain ⟨hkept, hnumber⟩ := Disk.act_look hlook
    have hprevious := (Disk.fileAt?_of_look hlook).resolve_left hread
    exact ⟨hsame.trans hkept, rfl, hnumber.trans hstaged, hnew,
      hprevious.symm.trans (hsame.fileAt?_eq _)⟩

/-- What is left after all documents are staged: each goes by a number of its own, all that was
staged before still is, and what the targets hold is known. -/
structure Staging (directory : String) (documents : List (String × String)) (disk left : Disk)
    (replacements : List (Replacement ℕ)) : Prop where
  same : SameFiles disk left
  kept : ∀ number contents, disk.staged.lookup number = some contents →
    left.staged.lookup number = some contents
  each : List.Forall₂
    (fun document replacement =>
      replacement.target = Path.join directory document.1 ∧
        left.staged.lookup replacement.file = some document.2.toUTF8)
    documents replacements
  nodup : (replacements.map Replacement.file).Nodup
  fresh : ∀ replacement ∈ replacements, replacement.file ∉ disk.staged.map Prod.fst
  previous : ∀ replacement ∈ replacements, replacement.previous = disk.fileAt? replacement.target

/-- One more document, staged before the others. -/
theorem Staging.cons {staged : Disk} {document : String × String}
    {documents : List (String × String)} {first : Replacement ℕ} {rest : List (Replacement ℕ)}
    (same : SameFiles disk staged) (target : first.target = Path.join directory document.1)
    (first_staged : staged.staged = (first.file, document.2.toUTF8) :: disk.staged)
    (unused : first.file ∉ disk.staged.map Prod.fst)
    (previous : first.previous = disk.fileAt? first.target)
    (others : Staging directory documents staged left rest) :
    Staging directory (document :: documents) disk left (first :: rest) := by
  have hfirst : staged.staged.lookup first.file = some document.2.toUTF8 := by
    rw [first_staged]
    exact List.lookup_cons_self
  have hnew : ∀ other ∈ rest, other.file ∉ first.file :: disk.staged.map Prod.fst := by
    intro other hother
    have hfresh := others.fresh other hother
    rwa [first_staged, List.map_cons] at hfresh
  constructor
  case same => exact same.trans others.same
  case kept =>
    intro number contents hnumber
    -- what was staged before goes by another number
    have hne : (number == first.file) = false := by
      rw [beq_eq_false_iff_ne]
      rintro rfl
      rw [Disk.lookup_eq_none_of_notMem unused] at hnumber
      contradiction
    refine others.kept number contents ?_
    rw [first_staged, List.lookup_cons, hne]
    exact hnumber
  case each => exact .cons ⟨target, others.kept _ _ hfirst⟩ others.each
  case nodup =>
    refine List.nodup_cons.2 ⟨?_, others.nodup⟩
    intro hmem
    obtain ⟨other, hother, hfile⟩ := List.mem_map.1 hmem
    exact hnew other hother (hfile ▸ List.mem_cons_self)
  case fresh =>
    refine List.forall_mem_cons.2 ⟨unused, fun other hother hmem => ?_⟩
    exact hnew other hother (List.mem_cons_of_mem _ hmem)
  case previous =>
    refine List.forall_mem_cons.2 ⟨previous, fun other hother => ?_⟩
    exact (others.previous other hother).trans (same.fileAt?_eq _)

/-- Staging documents one by one makes their replacements. -/
theorem stageAll_eq_some {documents : List (String × String)}
    {replacements : List (Replacement ℕ)}
    (done : disk.act (stageAll directory documents) = (some replacements, left)) :
    Staging directory documents disk left replacements := by
  induction documents generalizing disk replacements with
  | nil =>
    obtain ⟨hnone, rfl⟩ := Disk.act_pure_eq_iff.1 done
    obtain rfl := Option.some.inj hnone
    exact ⟨.refl disk, fun _ _ h => h, .nil, List.nodup_nil, by simp, by simp⟩
  | cons document documents ih =>
    cases stageAll_cons_ends done with
    | staged hfirst hrest =>
      obtain ⟨hsame, htarget, hstaged, hunused, hprevious⟩ := stageDocument_eq_some hfirst
      exact .cons hsame htarget hstaged hunused hprevious (ih hrest)

/-! ## Replacing -/

/-- Paths that lead to different places. -/
def Apart (disk : Disk) (paths : List String) : Prop :=
  paths.Pairwise fun first second =>
    ∀ place, disk.locate first = some place → disk.locate second ≠ some place

/-- Plain names that differ lead to different places. -/
theorem apart_join {names : List String} (plain : ∀ name ∈ names, Path.IsPlain name)
    (nodup : names.Nodup) : Apart disk (names.map (Path.join directory)) := by
  refine List.pairwise_map.2 (nodup.imp_of_mem fun hfirst hsecond hne place => ?_)
  exact Disk.locate_join_ne (plain _ hfirst) (plain _ hsecond) hne

/-- What is left after targets are replaced one by one, all of them: a target holds what was staged
for it unless a later one leads to the same place, and all other places hold what they held. -/
structure Overwriting (replacements : List (Replacement ℕ)) (disk left : Disk) : Prop where
  same : SameFolders disk left
  last : ∀ before replacement after, replacements = before ++ replacement :: after →
    (∀ later ∈ after, disk.locate later.target ≠ disk.locate replacement.target) →
    ∀ contents, disk.staged.lookup replacement.file = some contents →
      left.Holds replacement.target contents
  others : ∀ place, (∀ replacement ∈ replacements, disk.locate replacement.target ≠ some place) →
    left.contents? place = disk.contents? place

/-- What is left after targets that lead to different places are replaced: they hold what was
staged for them, and all other places hold what they held. -/
structure Replacing (replacements : List (Replacement ℕ)) (disk left : Disk) : Prop where
  same : SameFolders disk left
  holds : ∀ replacement ∈ replacements, ∀ contents,
    disk.staged.lookup replacement.file = some contents → left.Holds replacement.target contents
  others : ∀ place, (∀ replacement ∈ replacements, disk.locate replacement.target ≠ some place) →
    left.contents? place = disk.contents? place

/-- One more target, replaced before the others. -/
theorem Overwriting.cons {first : Replacement ℕ} {rest : List (Replacement ℕ)} {middle : Disk}
    {contents : ByteArray} {place : Place} (found : disk.locate first.target = some place)
    (replaced : Disk.Replaced first.file contents place disk middle)
    (unused : first.file ∉ rest.map Replacement.file) (after : Overwriting rest middle left) :
    Overwriting (first :: rest) disk left := by
  have hothers := after.others
  have hlast := after.last
  simp only [replaced.same.locate] at hothers hlast
  have hsame := replaced.same.trans after.same
  refine ⟨hsame, ?_, ?_⟩
  · intro before replacement later hsplit hlater bytes hbytes
    cases before with
    | nil =>
      obtain ⟨rfl, rfl⟩ := List.cons.inj hsplit
      -- no later target leads to the place of the first
      have hheld := hothers place fun other hother hplace =>
        hlater other hother (hplace.trans found.symm)
      obtain rfl : contents = bytes := Option.some.inj (replaced.source.symm.trans hbytes)
      exact ⟨place, (hsame.locate _).trans found, (hsame.isDirectory _).trans replaced.free,
        hheld.trans replaced.held⟩
    | cons head before =>
      obtain ⟨rfl, hrest⟩ := List.cons.inj hsplit
      have hmem : replacement ∈ rest := hrest ▸ List.mem_append_right _ List.mem_cons_self
      have hne : replacement.file ≠ first.file := fun hfile =>
        unused (hfile ▸ List.mem_map_of_mem hmem)
      exact hlast before replacement later hrest hlater bytes
        ((replaced.staged _ hne).trans hbytes)
  · intro other hother
    obtain ⟨hfirst, hrest⟩ := List.forall_mem_cons.1 hother
    have hne : other ≠ place := by
      rintro rfl
      exact hfirst found
    exact (hothers other hrest).trans (replaced.others other hne)

/-- Where all targets lead to different places, each is the last one that leads to its place. -/
theorem Overwriting.replacing {replacements : List (Replacement ℕ)}
    (overwriting : Overwriting replacements disk left)
    (located : ∀ replacement ∈ replacements, ∃ place, disk.locate replacement.target = some place)
    (apart : Apart disk (replacements.map Replacement.target)) :
    Replacing replacements disk left := by
  refine ⟨overwriting.same, fun replacement hmem => ?_, overwriting.others⟩
  obtain ⟨before, after, rfl⟩ := List.append_of_mem hmem
  obtain ⟨place, hplace⟩ := located replacement hmem
  refine overwriting.last before replacement after rfl fun later hlater hsame => ?_
  have hpairs := (List.pairwise_append.1 (List.pairwise_map.1 apart)).2.1
  exact (List.pairwise_cons.1 hpairs).1 later hlater place hplace (hsame.trans hplace)

/-- Targets are only replaced if all of them lead somewhere. -/
theorem replaceAll_eq_none {replacements : List (Replacement ℕ)}
    (nodup : (replacements.map Replacement.file).Nodup)
    (done : disk.act (replaceAll replacements) = (none, left)) :
    Overwriting replacements disk left ∧
      ∀ replacement ∈ replacements, ∃ place, disk.locate replacement.target = some place := by
  induction replacements generalizing disk with
  | nil =>
    obtain ⟨-, rfl⟩ := Disk.act_pure_eq_iff.1 done
    exact ⟨⟨⟨rfl, rfl⟩, by simp, fun _ _ => rfl⟩, by simp⟩
  | cons first rest ih =>
    obtain ⟨hunused, hrestNodup⟩ := List.nodup_cons.1 nodup
    cases replaceAll_cons_ends done with
    | replaced hreplace hrest =>
      obtain ⟨contents, place, hplace, hreplaced⟩ := Disk.replace_eq_true hreplace
      obtain ⟨hafter, hlocated⟩ := ih hrestNodup hrest
      simp only [hreplaced.same.locate] at hlocated
      exact ⟨.cons hplace hreplaced hunused hafter,
        List.forall_mem_cons.2 ⟨⟨place, hplace⟩, hlocated⟩⟩

/-! ## Writing -/

theorem Staging.targets {documents : List (String × String)} {replacements : List (Replacement ℕ)}
    (staging : Staging directory documents disk left replacements) :
    replacements.map Replacement.target =
      documents.map fun document => Path.join directory document.1 :=
  (map_eq_map_of_forall₂ (staging.each.imp fun _ _ h => h.1.symm)).symm

/-- Documents with plain names that differ are written to different places. -/
theorem replacing_of_writeAll {documents : List (String × String)} {paths : List String}
    (plain : ∀ document ∈ documents, Path.IsPlain document.1)
    (nodup : (documents.map Prod.fst).Nodup)
    (done : disk.run (writeAll directory documents) = (.ok paths, left)) :
    ∃ made staged replacements, disk.act (Files.createDirectories directory) = (true, made) ∧
      Staging directory documents made staged replacements ∧
      Replacing replacements staged left := by
  cases writeAll_ends done with
  | @written replacements made staged left hcreated hstaged hreplaced =>
    have hstaging := stageAll_eq_some hstaged
    have hapart : Apart staged (replacements.map Replacement.target) := by
      rw [hstaging.targets, ← Function.comp_def (Path.join directory), ← List.map_map]
      exact apart_join (List.forall_mem_map.2 plain) nodup
    obtain ⟨hoverwriting, hlocated⟩ := replaceAll_eq_none hstaging.nodup hreplaced
    exact ⟨made, staged, replacements, hcreated, hstaging, hoverwriting.replacing hlocated hapart⟩

/-- Documents with plain names that differ are all held after they are written. -/
theorem holds_of_writeAll {documents : List (String × String)} {paths : List String}
    (plain : ∀ document ∈ documents, Path.IsPlain document.1)
    (nodup : (documents.map Prod.fst).Nodup)
    (done : disk.run (writeAll directory documents) = (.ok paths, left)) :
    ∀ document ∈ documents, left.Holds (Path.join directory document.1) document.2.toUTF8 := by
  obtain ⟨_, _, replacements, -, hstaging, hreplacing⟩ := replacing_of_writeAll plain nodup done
  intro document hdocument
  obtain ⟨replacement, hreplacement, htarget, hstagedText⟩ :=
    exists_mem_of_forall₂ hstaging.each hdocument
  exact htarget ▸ hreplacing.holds replacement hreplacement _ hstagedText

/-! ## Reading -/

/-- A document that is held is read. -/
theorem run_read_of_holds {name text : String} (calm : disk.faults = [])
    (holds : disk.Holds (Path.join directory name) text.toUTF8) :
    disk.run (read directory name) = (.ok text, disk) := by
  unfold read
  rw [Disk.run_look_bind_of_holds calm holds]
  simp only [Found.text_file, Disk.run_except]

end SheetSchema.Documents
