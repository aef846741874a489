import SheetSchema.Proofs.CommandLine.Effects
import SheetSchema.Proofs.Compilation.Steps
import SheetSchema.Proofs.Partials.Reach

/-!
# Histories of an output directory

Runs of the program that write into one directory, one after the other, with anything else going on
elsewhere in between. Runs may have any arguments and inputs and fail at any operation. Whenever a
run is over, the directory has the three documents of one compilation or none of them.
-/

namespace SheetSchema

namespace CommandLine

variable {disk left : Disk} {folder : Place} {arguments : List String}
  {modulePath : Option String} {outcome : Outcome}

/-! ## Runs of the program -/

/-- The documents of a run go to this directory, if it writes any. -/
def WritesTo (folder : Place) (disk : Disk) (arguments : List String) : Prop :=
  ∀ invocation project looked outDir, Invocation.ofArguments arguments = .ok invocation →
    disk.run (ProjectSettings.load invocation.config) = (.ok project, looked) →
    invocation.command.outDir? = some outDir →
    disk.destination (directory project outDir) = folder

/-- A command writes to a directory that its settings and its arguments lead to. -/
theorem writesTo_of_eq {invocation : Invocation} {project : ProjectSettings}
    {outDir : Option String}
    (parsed : Invocation.ofArguments arguments = .ok invocation)
    (loaded : (disk.run (ProjectSettings.load invocation.config)).1 = .ok project)
    (given : invocation.command.outDir? = some outDir)
    (leads : disk.destination (directory project outDir) = folder) :
    WritesTo folder disk arguments := by
  intro invocation' project' looked outDir' hparsed hloaded hgiven
  obtain rfl := Except.ok.inj (parsed.symm.trans hparsed)
  rw [hloaded] at loaded
  obtain rfl := Except.ok.inj loaded
  obtain rfl := Option.some.inj (given.symm.trans hgiven)
  exact leads

/-- The workbook of a run is extracted to this extraction. -/
def Extracts (disk : Disk) (arguments : List String) (extraction : Extraction) : Prop :=
  ∃ invocation project looked, Invocation.ofArguments arguments = .ok invocation ∧
    disk.run (ProjectSettings.load invocation.config) = (.ok project, looked) ∧
    invocation.command.Extracts looked extraction

/-- The environment has no say in where documents go. -/
theorem directory_withEnvironment (project : ProjectSettings) (modulePath outDir : Option String) :
    directory (project.withEnvironment modulePath) outDir = directory project outDir := by
  unfold directory ProjectSettings.withEnvironment
  split
  · rfl
  · rfl

/-- What is done before a command starts to write does not show. -/
theorem Effect.after_keepsFiles {Extracted : Extraction → Prop} {succeeded : Prop} {middle : Disk}
    (keeps : Disk.KeepsFiles disk middle) (effect : Effect folder Extracted succeeded middle left) :
    Effect folder Extracted succeeded disk left := by
  constructor
  case compiled =>
    exact effect.compiled.imp_left fun hkept name hname => (hkept name hname).trans (keeps _)
  case extracted => exact effect.extracted.imp_left fun hkept => hkept.trans (keeps _)

/-- What a run does to the documents in the directory that it writes into. -/
theorem effect_of_execute (goes : WritesTo folder disk arguments)
    (done : disk.act (execute arguments modulePath) = (outcome, left)) :
    Effect folder (Extracts disk arguments) (outcome.code = 0) disk left := by
  unfold execute at done
  cases hparsed : Invocation.ofArguments arguments with
  | error stop =>
    rw [hparsed] at done
    obtain ⟨-, rfl⟩ := Disk.act_pure_eq_iff.1 done
    exact .of_keepsFiles fun _ => rfl
  | ok invocation =>
    rw [hparsed] at done
    obtain ⟨result, middle, hrun, hend⟩ := Disk.act_bind_eq_iff.1 done
    have hinvocation : disk.run (invocation.run modulePath) = (result, middle) := hrun
    -- what is printed leaves the disk, and a command that succeeds makes the run succeed
    have hcode : middle = left ∧ (result.isOk = true → outcome.code = 0) := by
      cases result with
      | error error =>
        obtain ⟨-, hleft⟩ := Disk.act_pure_eq_iff.1 hend
        exact ⟨hleft, fun h => absurd h Bool.false_ne_true⟩
      | ok finding =>
        obtain ⟨rfl, hleft⟩ := Disk.act_pure_eq_iff.1 hend
        exact ⟨hleft, fun _ => rfl⟩
    obtain ⟨rfl, hcode⟩ := hcode
    rcases Disk.run_bind_eq_iff.1 hinvocation with
      ⟨_, hfailed, -⟩ | ⟨project, looked, hloaded, hcommand⟩
    · exact .of_keepsFiles ((ProjectSettings.readsOnly_load _).same hfailed).keepsFiles
    · have hsame := (ProjectSettings.readsOnly_load _).same hloaded
      have heffect : Effect folder (invocation.command.Extracts looked) (result.isOk = true)
          looked middle := by
        refine Command.effect (fun outDir houtDir => ?_) hcommand
        rw [directory_withEnvironment, Disk.destination_of_current hsame.current]
        exact goes invocation project looked outDir hparsed hloaded houtDir
      refine .after_keepsFiles hsame.keepsFiles ⟨?_, ?_⟩
      · exact heffect.compiled.imp_right fun h => ⟨hcode h.1, h.2⟩
      · exact heffect.extracted.imp_right fun ⟨extraction, hextracts, hheld⟩ =>
          ⟨extraction, ⟨invocation, project, looked, hparsed, hloaded, hextracts⟩, hheld⟩

/-! ## One run after the other -/

/-- Disks on which a directory started without files and only runs of the program have written into
it since. -/
inductive History (folder : Place) : Disk → Prop where
  | start {disk : Disk} (vacant : ∀ name, disk.file? (folder ++ [name]) = none) :
      History folder disk
  /-- Something else happens that leaves the files of the directory alone. It may change inputs and
  settings, and which operations will fail. -/
  | meanwhile {disk other : Disk} (history : History folder disk)
      (untouched : ∀ name, other.file? (folder ++ [name]) = disk.file? (folder ++ [name])) :
      History folder other
  | run {disk left : Disk} {arguments : List String} {modulePath : Option String}
      {outcome : Outcome} (history : History folder disk)
      (goes : WritesTo folder disk arguments)
      (done : disk.act (execute arguments modulePath) = (outcome, left)) : History folder left

/-- A directory has none of the documents of a compilation, or all documents of one compilation. -/
def NoneOrAll (folder : Place) (disk : Disk) : Prop :=
  (∀ name ∈ Names.compiledDocuments, disk.file? (folder ++ [name]) = none) ∨
    ∃ config extraction compilation,
      Compilation.ofExtraction config extraction = .ok compilation ∧ compilation.HeldIn folder disk

/-- Documents that are kept stay those of the compilation that they were of. -/
theorem NoneOrAll.of_kept (before : NoneOrAll folder disk)
    (kept : ∀ name ∈ Names.compiledDocuments,
      left.file? (folder ++ [name]) = disk.file? (folder ++ [name])) : NoneOrAll folder left := by
  refine before.imp (fun hnone name hname => (kept name hname).trans (hnone name hname)) ?_
  rintro ⟨config, extraction, compilation, hcompiled, hheld⟩
  refine ⟨config, extraction, compilation, hcompiled, fun document hdocument => ?_⟩
  have hname : document.1 ∈ Names.compiledDocuments := List.mem_map_of_mem hdocument
  exact (kept document.1 hname).trans (hheld document hdocument)

/-- A run keeps the documents of one compilation, or replaces all of them by those of another. -/
theorem NoneOrAll.of_effect {Extracted : Extraction → Prop} {succeeded : Prop}
    (before : NoneOrAll folder disk) (effect : Effect folder Extracted succeeded disk left) :
    NoneOrAll folder left := by
  rcases effect.compiled with hkept | ⟨-, hcompiled⟩
  · exact before.of_kept hkept
  · exact Or.inr hcompiled

/-- At every point of a history the documents are all there or none is. -/
theorem History.noneOrAll (history : History folder disk) : NoneOrAll folder disk := by
  induction history with
  | start vacant => exact Or.inl fun name _ => vacant name
  | meanwhile _ untouched ih => exact ih.of_kept fun name _ => untouched name
  | run _ goes done ih => exact ih.of_effect (effect_of_execute goes done)

/-- Whatever runs have written into a directory that had no files, it has the documents of one
compilation or none, and so it has after one more run. If that run fails, the documents of a
compilation are as they were, and if its workbook is not extracted, so is that of an extraction. -/
theorem documents_agree (history : History folder disk) :
    NoneOrAll folder disk ∧
      ∀ arguments modulePath outcome left, WritesTo folder disk arguments →
        disk.act (execute arguments modulePath) = (outcome, left) →
          NoneOrAll folder left ∧
            (outcome.code ≠ 0 → ∀ name ∈ Names.compiledDocuments,
              left.file? (folder ++ [name]) = disk.file? (folder ++ [name])) ∧
            ((∀ extraction, ¬ Extracts disk arguments extraction) →
              left.file? (folder ++ [Names.rawDocument]) =
                disk.file? (folder ++ [Names.rawDocument])) := by
  refine ⟨history.noneOrAll, ?_⟩
  intro arguments modulePath outcome left hgoes hdone
  have heffect := effect_of_execute hgoes hdone
  refine ⟨history.noneOrAll.of_effect heffect, fun hfailed => ?_, fun hnone => ?_⟩
  · exact heffect.compiled.resolve_right fun h => hfailed h.1
  · exact heffect.extracted.resolve_right fun ⟨extraction, hextracts, _⟩ =>
      hnone extraction hextracts

end CommandLine

/-! ## A stall

Its workbook is built into a directory without files, and then another workbook is, which is not
there.
-/

namespace Stall

open CommandLine

/-- Disk with the workbook, a spreadsheet. -/
def home : Disk where
  directories := [["home"]]
  files := [(["home", "tea.xlsx"], .empty)]
  current := ["home"]
  spreadsheet? _ _ := some [("tea", some [[.text "Model", .text "Field"],
    [.text "Cup", .text "size"]])]

/-- Directory of the documents. -/
def output : Place := ["home", "build"]

theorem vacant (name : String) : home.file? (output ++ [name]) = none := by
  have habsent : output ++ [name] ∉ home.files.map Prod.fst := by simp [output, home]
  unfold Disk.file? Disk.contents?
  rw [Disk.lookup_eq_none_of_notMem habsent]
  split
  · rfl
  · rfl

/-- Arguments that build a workbook. -/
def building (workbook : String) : List String :=
  ["build", workbook, "--module-path", "example.com/app"]

/-- What they say. -/
def invocation (workbook : String) : Invocation :=
  ⟨Names.projectFile, .yaml, .build workbook ⟨none, some "example.com/app", none⟩⟩

theorem ofArguments_building :
    Invocation.ofArguments (building "tea.xlsx") = .ok (invocation "tea.xlsx") ∧
      Invocation.ofArguments (building "coffee.xlsx") = .ok (invocation "coffee.xlsx") := by
  decide +kernel

/-- The extraction of the workbook, as it is saved. -/
def saved : Extraction.Saved :=
  (home.run (Extraction.ofWorkbookAt "tea.xlsx" "build")).1.toOption.getD ⟨.empty, [], ""⟩

/-- The disk after the workbook is extracted. -/
def stocked : Disk := (home.run (Extraction.ofWorkbookAt "tea.xlsx" "build")).2

/-- The workbook is extracted and the extraction saved. -/
theorem run_ofWorkbookAt :
    home.run (Extraction.ofWorkbookAt "tea.xlsx" "build") = (.ok saved, stocked) :=
  Prod.ext (eq_ok_of_isOk (by decide +kernel) _) rfl

/-- The fields with their types. -/
def resolutions : Typing.Resolutions :=
  (Typing.resolve .standard saved.extraction.schema).toOption.getD .empty

/-- The fields with their relationships in place. -/
def expanded : TypedSchema := (Relations.expandSchema resolutions.schema).toOption.getD .empty

theorem steps :
    Compilation.Steps saved.extraction saved.extraction.schema resolutions expanded where
  inlined := Partials.inlineSchema_of_plain (by decide +kernel)
  resolved := eq_ok_of_isOk (by decide +kernel) _
  expanded := eq_ok_of_isOk (by decide +kernel) _

/-- What the workbook is compiled to. -/
def compilation : Compilation :=
  .assemble (.ofModulePath "example.com/app") resolutions expanded

/-- The disk after the workbook is built. -/
def built : Disk := (stocked.run (compilation.save "build")).2

/-- The three documents are written beside the extraction. -/
theorem run_save :
    stocked.run (compilation.save "build") =
      (.ok ["build/schema.json", "build/routes.json", "build/manifest.json"], built) :=
  Prod.ext (by decide +kernel) rfl

/-- A build leaves what extracting and compiling write one after the other. -/
theorem builds :
    ∃ outcome, home.act (execute (building "tea.xlsx") none) = (outcome, built) := by
  have hloaded : home.run (ProjectSettings.load Names.projectFile) = (.ok {}, home) := by rfl
  have hcompiled : Compilation.ofExtraction (.ofModulePath "example.com/app") saved.extraction =
      .ok compilation := Compilation.ofExtraction_eq_ok_iff.2 ⟨_, _, _, steps, rfl⟩
  have hcommand : home.run ((invocation "tea.xlsx").command.run
      (ProjectSettings.withEnvironment {} none)) = (.ok _, built) :=
    Disk.run_bind_eq_ok_iff.2 ⟨.ofModulePath "example.com/app", home, rfl,
      Disk.run_bind_eq_ok_iff.2 ⟨saved, stocked, run_ofWorkbookAt,
        Disk.run_bind_eq_ok_iff.2 ⟨compilation, stocked,
          Disk.run_except_eq_iff.2 ⟨hcompiled, rfl⟩,
          Disk.run_bind_eq_ok_iff.2 ⟨_, built, run_save, rfl⟩⟩⟩⟩
  have hinvocation : home.run ((invocation "tea.xlsx").run none) = (.ok _, built) :=
    Disk.run_bind_eq_ok_iff.2 ⟨_, home, hloaded, hcommand⟩
  unfold execute
  rw [ofArguments_building.1]
  exact ⟨_, Disk.act_bind_eq_iff.2 ⟨_, built, hinvocation, rfl⟩⟩

/-- The disk after the build is one that commands lead to. -/
theorem history_built : History output built := by
  have hloaded : (home.run (ProjectSettings.load Names.projectFile)).1 = .ok {} := by rfl
  have hgoes : WritesTo output home (building "tea.xlsx") :=
    writesTo_of_eq ofArguments_building.1 hloaded rfl (by decide +kernel)
  obtain ⟨_, hbuilt⟩ := builds
  exact .run (.start vacant) hgoes hbuilt

/-- What the second run finds. -/
theorem built_facts :
    stocked.destination "build" = output ∧
      stocked.file? (output ++ [Names.schemaDocument]) = none ∧
      (built.file? (output ++ [Names.schemaDocument])).isSome = true ∧
      (built.file? (output ++ [Names.rawDocument])).isSome = true ∧
      (built.run (ProjectSettings.load Names.projectFile)).1 = .ok {} ∧
      built.destination (directory {} none) = output ∧
      ((built.run (ProjectSettings.load Names.projectFile)).2.run
        (Workbook.load "coffee.xlsx")).1.isOk = false ∧
      (built.act (execute (building "coffee.xlsx") none)).1.code = 1 := by
  decide +kernel

/-- The documents of the workbook are there. -/
theorem heldIn_built : compilation.HeldIn output built := by
  obtain ⟨hleads, hbefore, hafter, -⟩ := built_facts
  obtain ⟨hfiles, -⟩ := Compilation.run_save run_save
  rw [hleads] at hfiles
  refine hfiles.elim (fun hkept => ?_) And.right
  rw [hkept, hbefore] at hafter
  contradiction

/-- A build of a workbook that is not there extracts nothing. -/
theorem not_extracts (extraction : Extraction) :
    ¬ Extracts built (building "coffee.xlsx") extraction := by
  rintro ⟨invocation, project, looked, hparsed, hloaded, path, hpath, workbook, _, hread, -⟩
  obtain rfl := Except.ok.inj (ofArguments_building.2.symm.trans hparsed)
  obtain rfl := Option.some.inj hpath
  have hlooked : built.run (ProjectSettings.load Names.projectFile) = (.ok project, looked) :=
    hloaded
  obtain ⟨-, -, -, -, -, -, hfails, -⟩ := built_facts
  rw [hlooked, hread] at hfails
  contradiction

/-- Building a workbook that is not there keeps the documents of the one that is. -/
theorem documents_agree_at_stall :
    History output built ∧ compilation.HeldIn output built ∧
      (built.file? (output ++ [Names.rawDocument])).isSome = true ∧
      WritesTo output built (building "coffee.xlsx") ∧
      (∀ extraction, ¬ Extracts built (building "coffee.xlsx") extraction) ∧
      ∃ outcome left, built.act (execute (building "coffee.xlsx") none) = (outcome, left) ∧
        outcome.code = 1 ∧ NoneOrAll output built ∧ NoneOrAll output left ∧
        compilation.HeldIn output left ∧
        left.file? (output ++ [Names.rawDocument]) =
          built.file? (output ++ [Names.rawDocument]) := by
  obtain ⟨-, -, -, hraw, hloaded, hleads, -, hcode⟩ := built_facts
  have hgoes : WritesTo output built (building "coffee.xlsx") :=
    writesTo_of_eq ofArguments_building.2 hloaded rfl hleads
  rcases hrun : built.act (execute (building "coffee.xlsx") none) with ⟨outcome, left⟩
  rw [hrun] at hcode
  obtain ⟨hbefore, hnext⟩ := documents_agree history_built
  obtain ⟨hafter, hkept, hrawKept⟩ := hnext _ none outcome left hgoes hrun
  have hfailed : outcome.code ≠ 0 := fun h => absurd (hcode.symm.trans h) Nat.one_ne_zero
  refine ⟨history_built, heldIn_built, hraw, hgoes, not_extracts, outcome, left, rfl, hcode,
    hbefore, hafter, fun document hdocument => ?_, hrawKept not_extracts⟩
  have hname : document.1 ∈ Names.compiledDocuments := List.mem_map_of_mem hdocument
  exact (hkept hfailed document.1 hname).trans (heldIn_built document hdocument)

end Stall

end SheetSchema
