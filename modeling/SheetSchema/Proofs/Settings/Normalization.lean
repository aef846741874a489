import SheetSchema.Proofs.Text.Trimming
import SheetSchema.Settings.Project

/-!
# Normal settings

Validation drops the blanks around a module path and a directory, and then the slashes. What it
gives is never empty and has no slash at the ends that it cleans. But blanks are dropped once, so a
blank that stands next to the slashes comes to an end of the result, and validating the result
again gives other settings. Where no blank touches the slashes, the result is normal.
-/

namespace SheetSchema

/-! ## Ends of a text -/

namespace Text

/-- The text begins with a character of a kind. -/
def Begins (kind : Char → Bool) (text : String) : Prop := text.toList.head?.any kind = true

/-- The text ends with a character of a kind. -/
def Ends (kind : Char → Bool) (text : String) : Prop := text.toList.getLast?.any kind = true

instance (kind : Char → Bool) (text : String) : Decidable (Begins kind text) :=
  inferInstanceAs (Decidable (_ = true))

instance (kind : Char → Bool) (text : String) : Decidable (Ends kind text) :=
  inferInstanceAs (Decidable (_ = true))

/-- The separator of paths. -/
def isSlash (c : Char) : Bool := c == '/'

variable {kind : Char → Bool} {text : String} {c : Char}

theorem begins_iff : Begins kind text ↔ ∃ c, text.toList.head? = some c ∧ kind c = true :=
  Option.any_eq_true _ _

theorem ends_iff : Ends kind text ↔ ∃ c, text.toList.getLast? = some c ∧ kind c = true :=
  Option.any_eq_true _ _

/-- A text that does not begin so is empty or begins otherwise. -/
theorem not_begins_iff :
    ¬ Begins kind text ↔ ∀ c, text.toList.head? = some c → kind c = false := by
  simp only [begins_iff, not_exists, not_and, Bool.not_eq_true]

/-- A text that does not end so is empty or ends otherwise. -/
theorem not_ends_iff :
    ¬ Ends kind text ↔ ∀ c, text.toList.getLast? = some c → kind c = false := by
  simp only [ends_iff, not_exists, not_and, Bool.not_eq_true]

/-- Exactly a text that neither begins nor ends with a blank is trimmed. -/
theorem trimmed_iff :
    trimChars text.toList = text.toList ↔ ¬ Begins isBlank text ∧ ¬ Ends isBlank text := by
  rw [trimChars_eq_self_iff, not_begins_iff, not_ends_iff]

/-- No character is both a blank and a slash. -/
theorem isSlash_of_isBlank (blank : isBlank c = true) : isSlash c = false := by
  rw [isSlash, beq_eq_false_iff_ne]
  rintro rfl
  exact absurd blank (by decide)

/-- Where slashes are dropped behind, a blank is left at the end if it stood before them. -/
theorem ends_isBlank_dropEndWhile_iff {chars : List Char} :
    (∃ c, (dropEndWhile isSlash chars).getLast? = some c ∧ isBlank c = true) ↔
      ∃ front blank slashes, chars = front ++ blank :: slashes ∧ isBlank blank = true ∧
        ∀ c ∈ slashes, isSlash c = true := by
  simp only [getLast?_dropEndWhile_eq_some_iff]
  constructor
  · intro h
    obtain ⟨c, ⟨front, slashes, hchars, -, hslashes⟩, hblank⟩ := h
    exact ⟨front, c, slashes, hchars, hblank, hslashes⟩
  · intro h
    obtain ⟨front, c, slashes, hchars, hblank, hslashes⟩ := h
    exact ⟨c, ⟨front, slashes, hchars, isSlash_of_isBlank hblank, hslashes⟩, hblank⟩

/-- Once trimmed, the text ends with a blank and then slashes. -/
def BlankBeforeSlashes (text : String) : Prop :=
  ∃ front blank slashes, trimChars text.toList = front ++ blank :: slashes ∧
    isBlank blank = true ∧ ∀ c ∈ slashes, isSlash c = true

/-- Once trimmed, the text begins with slashes and then a blank. -/
def BlankAfterSlashes (text : String) : Prop :=
  ∃ slashes blank rest, trimChars text.toList = slashes ++ blank :: rest ∧
    isBlank blank = true ∧ ∀ c ∈ slashes, isSlash c = true

end Text

open Text

namespace ProjectSettings

/-! ## Module paths -/

theorem toList_cleanModulePath (path : String) :
    (cleanModulePath path).toList = dropEndWhile isSlash (trimChars path.toList) :=
  String.toList_ofList

/-- Trimming comes first, so no blank is left at the front. -/
theorem not_begins_isBlank_cleanModulePath (path : String) :
    ¬ Begins isBlank (cleanModulePath path) := by
  rw [not_begins_iff, toList_cleanModulePath]
  intro c hfirst
  exact not_isBlank_of_head?_trimChars (head?_of_head?_dropEndWhile hfirst)

/-- Slashes are dropped last, so none is left at the end. -/
theorem not_ends_isSlash_cleanModulePath (path : String) :
    ¬ Ends isSlash (cleanModulePath path) := by
  rw [not_ends_iff, toList_cleanModulePath]
  intro c hlast
  exact kept_of_getLast?_dropEndWhile hlast

/-- A blank is left at the end exactly if it stood before the slashes. -/
theorem ends_isBlank_cleanModulePath_iff {path : String} :
    Ends isBlank (cleanModulePath path) ↔ BlankBeforeSlashes path := by
  rw [ends_iff, toList_cleanModulePath, ends_isBlank_dropEndWhile_iff, BlankBeforeSlashes]

/-- Cleaning takes characters away and adds none. -/
theorem cleanModulePath_sublist (path : String) :
    (cleanModulePath path).toList.Sublist (trimChars path.toList) := by
  rw [toList_cleanModulePath]
  exact (isPrefix_dropEndWhile _ _).sublist

/-- Cleaning leaves exactly the paths alone that have no blank at an end and no slash behind. -/
theorem cleanModulePath_eq_self_iff {path : String} :
    cleanModulePath path = path ↔
      ¬ Begins isBlank path ∧ ¬ Ends isBlank path ∧ ¬ Ends isSlash path := by
  constructor
  · intro hself
    -- what is left is as long as the path, so trimming left the path alone as well
    have hleft := cleanModulePath_sublist path
    rw [hself] at hleft
    obtain ⟨hfirst, hlast⟩ := trimmed_iff.1 ((trimChars_sublist _).antisymm hleft)
    exact ⟨hfirst, hlast, hself ▸ not_ends_isSlash_cleanModulePath path⟩
  · intro h
    obtain ⟨hfirst, hlast, hslash⟩ := h
    rw [← String.toList_inj, toList_cleanModulePath, trimmed_iff.2 ⟨hfirst, hlast⟩,
      dropEndWhile_eq_self (not_ends_iff.1 hslash)]

/-! ## Directories -/

theorem toList_cleanDirectory (path : String) :
    (cleanDirectory path).toList =
      dropEndWhile isSlash ((trimChars path.toList).dropWhile isSlash) := by
  rw [cleanDirectory, String.toList_ofList]
  rfl

/-- A directory is stripped of slashes at the front. -/
theorem not_begins_isSlash_cleanDirectory (path : String) :
    ¬ Begins isSlash (cleanDirectory path) := by
  rw [not_begins_iff, toList_cleanDirectory]
  intro c hfirst
  exact kept_of_head?_dropWhile (head?_of_head?_dropEndWhile hfirst)

/-- A directory is stripped of slashes at the end. -/
theorem not_ends_isSlash_cleanDirectory (path : String) :
    ¬ Ends isSlash (cleanDirectory path) := by
  rw [not_ends_iff, toList_cleanDirectory]
  intro c hlast
  exact kept_of_getLast?_dropEndWhile hlast

/-- A blank is left at the start exactly if it stood behind the slashes. -/
theorem begins_isBlank_cleanDirectory_iff {path : String} :
    Begins isBlank (cleanDirectory path) ↔ BlankAfterSlashes path := by
  rw [begins_iff, toList_cleanDirectory]
  constructor
  · intro h
    obtain ⟨c, hfirst, hblank⟩ := h
    obtain ⟨slashes, rest, hpath, -, hslashes⟩ :=
      head?_dropWhile_eq_some_iff.1 (head?_of_head?_dropEndWhile hfirst)
    exact ⟨slashes, c, rest, hpath, hblank, hslashes⟩
  · intro h
    obtain ⟨slashes, c, rest, hpath, hblank, hslashes⟩ := h
    have hkept := isSlash_of_isBlank hblank
    rw [hpath, dropWhile_append_cons hkept hslashes]
    exact ⟨c, head?_dropEndWhile rfl hkept, hblank⟩

/-- A blank is left at the end exactly if it stood before the slashes. -/
theorem ends_isBlank_cleanDirectory_iff {path : String} :
    Ends isBlank (cleanDirectory path) ↔ BlankBeforeSlashes path := by
  rw [ends_iff, toList_cleanDirectory, ends_isBlank_dropEndWhile_iff, BlankBeforeSlashes]
  constructor
  · intro h
    obtain ⟨front, blank, slashes, hleft, hblank, hslashes⟩ := h
    refine ⟨(trimChars path.toList).takeWhile isSlash ++ front, blank, slashes, ?_, hblank,
      hslashes⟩
    rw [List.append_assoc, ← hleft, List.takeWhile_append_dropWhile]
  · intro h
    obtain ⟨front, blank, slashes, hpath, hblank, hslashes⟩ := h
    refine ⟨front.dropWhile isSlash, blank, slashes, ?_, hblank, hslashes⟩
    -- the blank is no slash, so slashes are dropped in front of it only
    rw [hpath, List.dropWhile_append]
    split
    · next hnone =>
      rw [List.isEmpty_iff.1 hnone, List.nil_append,
        List.dropWhile_cons_of_neg (by simp [isSlash_of_isBlank hblank])]
    · rfl

/-- Cleaning a directory adds no characters either. -/
theorem cleanDirectory_sublist (path : String) :
    (cleanDirectory path).toList.Sublist (trimChars path.toList) := by
  rw [toList_cleanDirectory]
  exact (isPrefix_dropEndWhile _ _).sublist.trans (List.dropWhile_sublist _)

/-- Cleaning leaves exactly the directories alone that have neither blank nor slash at an end. -/
theorem cleanDirectory_eq_self_iff {path : String} :
    cleanDirectory path = path ↔ (¬ Begins isBlank path ∧ ¬ Ends isBlank path) ∧
      ¬ Begins isSlash path ∧ ¬ Ends isSlash path := by
  constructor
  · intro hself
    have hleft := cleanDirectory_sublist path
    rw [hself] at hleft
    exact ⟨trimmed_iff.1 ((trimChars_sublist _).antisymm hleft),
      hself ▸ not_begins_isSlash_cleanDirectory path, hself ▸ not_ends_isSlash_cleanDirectory path⟩
  · intro h
    obtain ⟨hblanks, hfirst, hlast⟩ := h
    rw [← String.toList_inj, toList_cleanDirectory, trimmed_iff.2 hblanks,
      dropWhile_eq_self (not_begins_iff.1 hfirst), dropEndWhile_eq_self (not_ends_iff.1 hlast)]

/-! ## Settings -/

/-- A given text counts unless it is empty. -/
theorem filter_some_eq (text : String) :
    (some text).filter (fun text => !text.isEmpty) = if text = "" then none else some text := by
  by_cases hnone : text = ""
  · rw [if_pos hnone, hnone]
    rfl
  · rw [if_neg hnone, Option.filter_some, if_pos (by simpa using hnone)]

/-- The directory that is given, or the standard one where nothing is left of it. -/
def directoryOf (given : Option String) : String :=
  ((given.map cleanDirectory).filter fun path => !path.isEmpty).getD
    CompilerSettings.standardModelsDir

/-- Validation gives settings exactly if something is left of the module path. -/
theorem compilerSettings_eq_ok_iff {config : ProjectSettings} {settings : CompilerSettings} :
    config.compilerSettings = .ok settings ↔
      ∃ path, config.modulePath = some path ∧ cleanModulePath path ≠ "" ∧
        settings = ⟨cleanModulePath path, directoryOf config.modelsDir,
          config.sort.getD .boundedPasses⟩ := by
  unfold compilerSettings
  cases config.modulePath with
  | none => simp
  | some path =>
    rw [Option.map_some, filter_some_eq]
    by_cases hnone : cleanModulePath path = ""
    · simp [hnone]
    · rw [if_neg hnone]
      simp only [Except.ok.injEq, Option.some.injEq, exists_eq_left', ne_eq, hnone,
        not_false_eq_true, true_and]
      exact eq_comm

/-- The directory is a given one, cleaned, or the standard one if nothing is left. -/
theorem directoryOf_some (path : String) :
    directoryOf (some path) =
      if cleanDirectory path = "" then CompilerSettings.standardModelsDir
      else cleanDirectory path := by
  rw [directoryOf, Option.map_some, filter_some_eq]
  split <;> rfl

/-- Something is left of the directory, and slashes are dropped from both ends. -/
theorem directoryOf_ends (given : Option String) :
    directoryOf given ≠ "" ∧ ¬ Begins isSlash (directoryOf given) ∧
      ¬ Ends isSlash (directoryOf given) := by
  cases given with
  | none => decide
  | some path =>
    rw [directoryOf_some]
    split
    · decide
    · next hleft =>
      exact ⟨hleft, not_begins_isSlash_cleanDirectory path, not_ends_isSlash_cleanDirectory path⟩

/-- The directory has a blank at an end exactly if one touched the slashes of the given one. -/
theorem directoryOf_blanks_iff {given : Option String} :
    (¬ Begins isBlank (directoryOf given) ∧ ¬ Ends isBlank (directoryOf given)) ↔
      ∀ path ∈ given, ¬ BlankAfterSlashes path ∧ ¬ BlankBeforeSlashes path := by
  cases given with
  | none =>
    have hstandard : ¬ Begins isBlank (directoryOf none) ∧ ¬ Ends isBlank (directoryOf none) := by
      decide
    simp [hstandard]
  | some path =>
    simp only [Option.mem_some_iff, forall_eq', ← begins_isBlank_cleanDirectory_iff,
      ← ends_isBlank_cleanDirectory_iff]
    rw [directoryOf_some]
    split
    · next hnone =>
      rw [hnone]
      decide
    · rfl

end ProjectSettings

/-! ## Normal settings -/

namespace CompilerSettings

open ProjectSettings

variable {settings : CompilerSettings}

/-- Nothing is left to clean at the ends of the path and of the directory. -/
structure Normal (settings : CompilerSettings) : Prop where
  modulePath_ne_empty : settings.modulePath ≠ ""
  modulePath_blanks : ¬ Begins isBlank settings.modulePath ∧ ¬ Ends isBlank settings.modulePath
  modulePath_slash : ¬ Ends isSlash settings.modulePath
  modelsDir_ne_empty : settings.modelsDir ≠ ""
  modelsDir_blanks : ¬ Begins isBlank settings.modelsDir ∧ ¬ Ends isBlank settings.modelsDir
  modelsDir_slashes : ¬ Begins isSlash settings.modelsDir ∧ ¬ Ends isSlash settings.modelsDir

/-- The settings as those of a project. -/
def restated (settings : CompilerSettings) (outputDir : Option String) : ProjectSettings where
  modulePath := some settings.modulePath
  modelsDir := some settings.modelsDir
  outputDir
  sort := some settings.sort

/-- Settings that name a module and a directory are normal if cleaning leaves both as they are. -/
theorem normal_iff (named : settings.modulePath ≠ "") (housed : settings.modelsDir ≠ "") :
    settings.Normal ↔ cleanModulePath settings.modulePath = settings.modulePath ∧
      cleanDirectory settings.modelsDir = settings.modelsDir := by
  constructor
  · intro normal
    exact ⟨cleanModulePath_eq_self_iff.2 ⟨normal.modulePath_blanks.1, normal.modulePath_blanks.2,
      normal.modulePath_slash⟩,
      cleanDirectory_eq_self_iff.2 ⟨normal.modelsDir_blanks, normal.modelsDir_slashes⟩⟩
  · intro h
    obtain ⟨hfirst, hlast, hslash⟩ := cleanModulePath_eq_self_iff.1 h.1
    obtain ⟨hblanks, hslashes⟩ := cleanDirectory_eq_self_iff.1 h.2
    exact ⟨named, ⟨hfirst, hlast⟩, hslash, housed, hblanks, hslashes⟩

/-- Exactly normal settings are validated to themselves. -/
theorem restated_settled_iff {outputDir : Option String} (named : settings.modulePath ≠ "")
    (housed : settings.modelsDir ≠ "") :
    (settings.restated outputDir).compilerSettings = .ok settings ↔ settings.Normal := by
  rw [normal_iff named housed]
  obtain ⟨path, directory, sort⟩ := settings
  rw [compilerSettings_eq_ok_iff]
  simp only [restated, Option.some.injEq, exists_eq_left', directoryOf_some, Option.getD_some,
    mk.injEq, and_true]
  constructor
  · intro h
    obtain ⟨-, hpath, hdirectory⟩ := h
    refine ⟨hpath.symm, ?_⟩
    split at hdirectory
    · next hnone =>
      -- the standard directory is clean, so it does not stand in for another one
      rw [hdirectory] at hnone
      exact absurd hnone (by decide)
    · exact hdirectory.symm
  · intro h
    obtain ⟨hpath, hdirectory⟩ := h
    rw [hpath, hdirectory, if_neg housed]
    exact ⟨named, rfl, rfl⟩

end CompilerSettings

/-- Whatever is validated, the path and the directory are not empty and have no slash at the ends
that are cleaned. They have a blank at an end exactly if one touched the slashes that were dropped,
and exactly if they have none, validating them again changes nothing. -/
theorem ProjectSettings.normalizes_iff_no_blank_at_slashes {config : ProjectSettings}
    {settings : CompilerSettings} (done : config.compilerSettings = .ok settings) :
    (settings.modulePath ≠ "" ∧ ¬ Begins isBlank settings.modulePath ∧
      ¬ Ends isSlash settings.modulePath ∧ settings.modelsDir ≠ "" ∧
      ¬ Begins isSlash settings.modelsDir ∧ ¬ Ends isSlash settings.modelsDir) ∧
    (settings.Normal ↔ (∀ path ∈ config.modulePath, ¬ BlankBeforeSlashes path) ∧
      ∀ path ∈ config.modelsDir, ¬ BlankAfterSlashes path ∧ ¬ BlankBeforeSlashes path) ∧
    ∀ outputDir, (settings.restated outputDir).compilerSettings = .ok settings ↔
      settings.Normal := by
  obtain ⟨path, hgiven, hleft, rfl⟩ := compilerSettings_eq_ok_iff.1 done
  obtain ⟨hhoused, hfirst, hlast⟩ := directoryOf_ends config.modelsDir
  have hpath := not_begins_isBlank_cleanModulePath path
  have hslash := not_ends_isSlash_cleanModulePath path
  refine ⟨⟨hleft, hpath, hslash, hhoused, hfirst, hlast⟩, ?_, fun outputDir => ?_⟩
  · rw [hgiven, ← directoryOf_blanks_iff]
    simp only [Option.mem_some_iff, forall_eq', ← ends_isBlank_cleanModulePath_iff]
    constructor
    · intro normal
      exact ⟨normal.modulePath_blanks.2, normal.modelsDir_blanks⟩
    · intro h
      exact ⟨hleft, ⟨hpath, h.1⟩, hslash, hhoused, h.2, hfirst, hlast⟩
  · exact CompilerSettings.restated_settled_iff hleft hhoused

/-! ## A nursery

Its settings have blanks between the names and the slashes.
-/

namespace Nursery

/-- A blank stands before the slash of the path, and one behind that of the directory. -/
def config : ProjectSettings where
  modulePath := some "example.com/nursery /"
  modelsDir := some "/ internal/models/"

/-- Settings whose blanks are outside the slashes. -/
def tidied : ProjectSettings where
  modulePath := some " example.com/nursery/ "
  modelsDir := some " /internal/models/"
  sort := some .topological

/-- Blanks outside the slashes are dropped with them. -/
theorem tidied_is_normal :
    tidied.compilerSettings = .ok ⟨"example.com/nursery", "internal/models", .topological⟩ ∧
      CompilerSettings.Normal ⟨"example.com/nursery", "internal/models", .topological⟩ := by
  have hdone : tidied.compilerSettings =
      .ok ⟨"example.com/nursery", "internal/models", .topological⟩ := by decide
  refine ⟨hdone, (ProjectSettings.normalizes_iff_no_blank_at_slashes hdone).2.1.2 ⟨?_, ?_⟩⟩
  · intro path hpath
    obtain rfl := Option.some_inj.1 hpath
    rw [← ProjectSettings.ends_isBlank_cleanModulePath_iff]
    decide
  · intro path hpath
    obtain rfl := Option.some_inj.1 hpath
    rw [← ProjectSettings.begins_isBlank_cleanDirectory_iff,
      ← ProjectSettings.ends_isBlank_cleanDirectory_iff]
    decide

/-- Both blanks are kept, and validating again drops them. -/
theorem keeps_blanks :
    config.compilerSettings =
        .ok ⟨"example.com/nursery ", " internal/models", .boundedPasses⟩ ∧
      Ends isBlank "example.com/nursery " ∧ Begins isBlank " internal/models" ∧
      (CompilerSettings.restated ⟨"example.com/nursery ", " internal/models", .boundedPasses⟩
          none).compilerSettings =
        .ok ⟨"example.com/nursery", "internal/models", .boundedPasses⟩ := by
  decide

end Nursery

end SheetSchema
