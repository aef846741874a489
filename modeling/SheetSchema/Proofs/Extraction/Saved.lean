import SheetSchema.CommandLine.Run
import SheetSchema.Proofs.Files.Documents
import SheetSchema.Proofs.Schema.Document
import SheetSchema.Proofs.Workbook.Cells

/-!
# Compiling what was saved

An extraction that is saved and loaded again compiles as the extraction in memory does, so that
building a workbook does what extracting it and compiling the result do one after the other.
-/

namespace SheetSchema

open CommandLine Files

variable {disk left : Disk}

/-! ## Loading a workbook -/

/-- Loading a workbook is reading it without its warnings. -/
theorem Workbook.run_load_eq_ok_iff {path : String} {workbook : Workbook} :
    disk.run (Workbook.load path) = (.ok workbook, left) ↔
      ∃ warnings, disk.run (Workbook.read path) = (.ok (workbook, warnings), left) := by
  unfold Workbook.load
  rw [Disk.run_bind_eq_ok_iff]
  constructor
  · intro h
    obtain ⟨⟨workbook', warnings⟩, middle, hread, hend⟩ := h
    rw [Disk.run_pure, Prod.mk.injEq, Except.ok.injEq] at hend
    obtain ⟨rfl, rfl⟩ := hend
    exact ⟨warnings, hread⟩
  · intro h
    obtain ⟨warnings, hread⟩ := h
    exact ⟨(workbook, warnings), left, hread, rfl⟩

/-- Records in the cells of a workbook that is loaded are sorted. -/
theorem Workbook.canonical_of_load {path : String} {workbook : Workbook}
    (loaded : disk.run (Workbook.load path) = (.ok workbook, left)) :
    workbook.EveryCell Cell.Canonical := by
  obtain ⟨warnings, hread⟩ := run_load_eq_ok_iff.1 loaded
  unfold Workbook.read at hread
  split at hread
  · obtain ⟨text, looked, -, hrest⟩ := Disk.run_bind_eq_ok_iff.1 hread
    obtain ⟨workbook', middle, hparsed, hend⟩ := Disk.run_bind_eq_ok_iff.1 hrest
    obtain ⟨rfl, -⟩ := Prod.mk.inj (Except.ok.inj (Prod.mk.inj hend).1)
    exact canonical_ofJsonText (Disk.run_except_eq_iff.1 hparsed).1
  · obtain ⟨text, looked, -, hrest⟩ := Disk.run_bind_eq_ok_iff.1 hread
    obtain ⟨workbook', middle, hparsed, hend⟩ := Disk.run_bind_eq_ok_iff.1 hrest
    obtain ⟨rfl, -⟩ := Prod.mk.inj (Except.ok.inj (Prod.mk.inj hend).1)
    exact canonical_ofYamlText (Disk.run_except_eq_iff.1 hparsed).1
  · obtain ⟨spreadsheet?, looked, -, hrest⟩ := Disk.run_bind_eq_ok_iff.1 hread
    cases spreadsheet? with
    | none => exact absurd (Prod.mk.inj hrest).1 (by simp)
    | some spreadsheet =>
      obtain ⟨grids, middle, -, hend⟩ := Disk.run_bind_eq_ok_iff.1 hrest
      obtain ⟨rfl, -⟩ := Prod.mk.inj (Except.ok.inj (Prod.mk.inj hend).1)
      exact canonical_ofGrids grids
  · exact absurd (Prod.mk.inj hread).1 (by simp)

/-! ## Saving an extraction -/

namespace Extraction

theorem holds_of_save {extraction : Extraction} {directory path : String}
    (saved : disk.run (extraction.save directory) = (.ok path, left)) :
    left.Holds (Path.join directory Names.rawDocument) extraction.toDocument.toUTF8 := by
  unfold save at saved
  obtain ⟨paths, middle, hwritten, hend⟩ := Disk.run_bind_eq_ok_iff.1 saved
  obtain ⟨-, rfl⟩ := Prod.mk.inj hend
  have hplain : Path.IsPlain Names.rawDocument := by decide
  have hplains : ∀ document ∈ [(Names.rawDocument, extraction.toDocument)],
      Path.IsPlain document.1 := List.forall_mem_singleton.2 hplain
  exact Documents.holds_of_writeAll hplains (List.nodup_singleton _) hwritten
    (Names.rawDocument, extraction.toDocument) (List.mem_singleton_self _)

/-- An extraction that was saved is loaded unless its document nests too deep. -/
theorem run_load_of_holds {extraction : Extraction} {path : String} (calm : disk.faults = [])
    (cells : extraction.EveryCell Cell.Canonical)
    (holds : disk.Holds path extraction.toDocument.toUTF8) :
    disk.run (Extraction.load path) =
      (if extraction.toJson.depth ≤ Json.maximumDepth then .ok extraction else .error .json,
        disk) := by
  unfold Extraction.load
  rw [Disk.run_bind, Disk.run_readText_of_holds calm holds]
  simp only [Disk.run_except, ofText_toDocument cells]

/-- What a workbook is extracted to is saved. -/
theorem ofWorkbookAt_eq_ok {path directory : String} {saved : Saved}
    (done : disk.run (ofWorkbookAt path directory) = (.ok saved, left)) :
    ∃ workbook looked, disk.run (Workbook.load path) = (.ok workbook, looked) ∧
      ofWorkbook workbook = .ok saved.extraction ∧
      (∃ warnings, disk.run (Workbook.read path) = (.ok (workbook, warnings), looked) ∧
        saved.warnings = warnings ++ workbook.warnings) ∧
      left.Holds (Path.join directory Names.rawDocument) saved.extraction.toDocument.toUTF8 := by
  unfold ofWorkbookAt at done
  obtain ⟨⟨workbook, warnings⟩, looked, hread, hrest⟩ := Disk.run_bind_eq_ok_iff.1 done
  obtain ⟨extraction, looked', hextracted, hsave⟩ := Disk.run_bind_eq_ok_iff.1 hrest
  obtain ⟨hextraction, rfl⟩ := Disk.run_except_eq_iff.1 hextracted
  obtain ⟨target, written, hsaved, hend⟩ := Disk.run_bind_eq_ok_iff.1 hsave
  rw [Disk.run_pure, Prod.mk.injEq, Except.ok.injEq] at hend
  obtain ⟨rfl, rfl⟩ := hend
  exact ⟨workbook, looked, Workbook.run_load_eq_ok_iff.2 ⟨warnings, hread⟩, hextraction,
    ⟨warnings, hread, rfl⟩, holds_of_save hsaved⟩

end Extraction

/-! ## Commands -/

namespace CommandLine

/-- The run with further warnings before those of its finding. -/
def withWarnings (warnings : List Warning) (result : Except Error Finding) :
    Except Error Finding :=
  result.map fun finding => { finding with warnings := warnings ++ finding.warnings }

theorem run_finish_append (compilation : Compilation) (directory : String)
    (before warnings : List Warning) :
    disk.run (finish compilation directory (before ++ warnings)) =
      (withWarnings before (disk.run (finish compilation directory warnings)).1,
        (disk.run (finish compilation directory warnings)).2) := by
  unfold finish
  rw [Disk.run_bind, Disk.run_bind]
  rcases disk.run (compilation.save directory) with ⟨error | paths, left⟩
  · rfl
  · rfl

/-- What extracting saves and reports. -/
theorem run_extract_eq_ok {project : ProjectSettings} {path : String} {outDir : Option String}
    {finding : Finding}
    (done : disk.run ((Command.extract path outDir).run project) = (.ok finding, left)) :
    ∃ saved, disk.run (Extraction.ofWorkbookAt path (directory project outDir)) =
      (.ok saved, left) ∧ finding.warnings = saved.warnings := by
  obtain ⟨saved, written, hsaved, hend⟩ := Disk.run_bind_eq_ok_iff.1 done
  rw [Disk.run_pure, Prod.mk.injEq, Except.ok.injEq] at hend
  obtain ⟨rfl, rfl⟩ := hend
  exact ⟨saved, hsaved, rfl⟩

/-- Settings that do not validate stop a command that begins with them before it touches a file. -/
theorem run_bind_of_config_eq_error {α : Type} {project : ProjectSettings} {options : CompileFlags}
    {error : Error} {rest : CompilerSettings → ExceptT Error (StateM Disk) α}
    (invalid : options.config project = .error error) :
    disk.run (liftM (options.config project) >>= rest) = (.error error, disk) := by
  rw [Disk.run_bind, Disk.run_except, invalid]

/-- A build goes on from the extraction in memory. -/
theorem run_build {project : ProjectSettings} {path : String} {options : CompileFlags}
    {config : CompilerSettings} {saved : Extraction.Saved}
    (valid : options.config project = .ok config)
    (extracted : disk.run (Extraction.ofWorkbookAt path (directory project options.outDir)) =
      (.ok saved, left)) :
    disk.run ((Command.build path options).run project) =
      left.run (do
        let compilation ← Compilation.ofExtraction config saved.extraction
        finish compilation (directory project options.outDir)
          (saved.warnings ++ compilation.warnings)) := by
  show disk.run (liftM (options.config project) >>= fun config =>
    Extraction.ofWorkbookAt path (directory project options.outDir) >>= fun saved => _) = _
  rw [Disk.run_bind, Disk.run_except, valid]
  simp only [Disk.run_bind, extracted]

/-- Compiling goes on from the extraction that is loaded. -/
theorem run_compile {project : ProjectSettings} {options : CompileFlags}
    {config : CompilerSettings} {extraction : Extraction}
    (valid : options.config project = .ok config)
    (loaded : disk.run (Extraction.load
      (Path.join (directory project options.outDir) Names.rawDocument)) = (.ok extraction, left)) :
    disk.run ((Command.compile none options).run project) =
      left.run (do
        let compilation ← Compilation.ofExtraction config extraction
        finish compilation (directory project options.outDir) compilation.warnings) := by
  show disk.run (liftM (options.config project) >>= fun config =>
    (Extraction.load (Path.join (directory project options.outDir) Names.rawDocument) >>=
      fun extraction => liftM (Compilation.ofExtraction config extraction)) >>= fun _ => _) = _
  rw [Disk.run_bind, Disk.run_except, valid]
  simp only [Disk.run_bind, loaded]

end CommandLine

/-! ## The theorem -/

/-- The document of an extraction is read as that extraction, or refused if it nests too deep. If
it is not, compiling what the document holds is compiling the extraction, and building a workbook
does what extracting it and compiling the saved document do, if no operation fails in between: the
same report or error, all warnings, and the same files. -/
theorem Extraction.compiles_as_saved {workbook : Workbook} {extraction : Extraction}
    (cells : workbook.EveryCell Cell.Canonical)
    (extracted : Extraction.ofWorkbook workbook = .ok extraction) :
    Extraction.ofText extraction.toDocument =
        (if extraction.toJson.depth ≤ Json.maximumDepth then .ok extraction else .error .json) ∧
      (extraction.toJson.depth ≤ Json.maximumDepth →
        (∀ config, (do Compilation.ofExtraction config (← Extraction.ofText extraction.toDocument))
          = Compilation.ofExtraction config extraction) ∧
        ∀ (project : ProjectSettings) (path : String) (options : CompileFlags)
          (disk looked written : Disk) (finding : Finding),
          disk.run (Workbook.load path) = (.ok workbook, looked) →
          disk.run ((Command.extract path options.outDir).run project) = (.ok finding, written) →
          written.faults = [] →
          (disk.run ((Command.build path options).run project)).1 =
              withWarnings finding.warnings
                (written.run ((Command.compile none options).run project)).1 ∧
            ((options.config project).isOk →
              (disk.run ((Command.build path options).run project)).2 =
                (written.run ((Command.compile none options).run project)).2)) := by
  have hcanonical := everyCell_ofWorkbook cells extracted
  have hread := ofText_toDocument hcanonical
  refine ⟨hread, fun hshallow => ⟨fun config => ?_, ?_⟩⟩
  · rw [hread, if_pos hshallow]
    rfl
  · intro project path options disk looked written finding hloaded hextract hcalm
    obtain ⟨saved, hsaved, hwarnings⟩ := run_extract_eq_ok hextract
    obtain ⟨workbook', looked', hloaded', hextraction, -, hholds⟩ := ofWorkbookAt_eq_ok hsaved
    -- the workbook that was extracted is the one that is loaded
    rw [hloaded, Prod.mk.injEq, Except.ok.injEq] at hloaded'
    obtain ⟨rfl, -⟩ := hloaded'
    obtain rfl := Except.ok.inj (extracted.symm.trans hextraction)
    cases hconfig : options.config project with
    | error error =>
      have hbuild : disk.run ((Command.build path options).run project) = (.error error, disk) :=
        run_bind_of_config_eq_error hconfig
      have hcompile : written.run ((Command.compile none options).run project) =
          (.error error, written) := run_bind_of_config_eq_error hconfig
      rw [hbuild, hcompile]
      exact ⟨rfl, fun hok => absurd hok (by simp [Except.isOk, Except.toBool])⟩
    | ok config =>
      have hload := run_load_of_holds hcalm hcanonical hholds
      rw [if_pos hshallow] at hload
      rw [run_build hconfig hsaved, run_compile hconfig hload, hwarnings, Disk.run_bind,
        Disk.run_bind, Disk.run_except]
      cases Compilation.ofExtraction config saved.extraction with
      | error error => exact ⟨rfl, fun _ => rfl⟩
      | ok compilation =>
        simp only [run_finish_append]
        exact ⟨trivial, fun _ => trivial⟩

/-! ## A kiosk

The cells of its workbook nest, and the file names the members of a record out of order.
-/

namespace Kiosk

/-- Text of the workbook. -/
def text : String :=
  "\x7b\"kiosk\":[\x7b\"Model\":\"Tea\",\"Field\":\"size\",
    \"Meta\":\x7b\"z\":-0.0,\"a\":[7,\"\\u00e9\"]\x7d\x7d]\x7d"

/-- Disk with the workbook. -/
def home : Disk where
  directories := [["home"]]
  files := [(["home", "kiosk.json"], text.toUTF8)]
  current := ["home"]

/-- The workbook is extracted, and the document nests seven levels. -/
theorem extracts :
    ((home.run (Extraction.ofWorkbookAt "kiosk.json" (directory {} none))).1.map
      fun saved => saved.extraction.toJson.depth) = .ok 7 ∧
    (home.run (Extraction.ofWorkbookAt "kiosk.json" (directory {} none))).2.faults = [] := by
  decide +kernel

/-- Building the kiosk does what extracting and compiling it do. -/
theorem builds_as_saved :
    ∃ workbook looked extraction finding written,
      home.run (Workbook.load "kiosk.json") = (.ok workbook, looked) ∧
      Extraction.ofWorkbook workbook = .ok extraction ∧
      home.run ((Command.extract "kiosk.json" none).run {}) = (.ok finding, written) ∧
      Extraction.ofText extraction.toDocument = .ok extraction ∧
      (home.run ((Command.build "kiosk.json" ⟨none, some "example.com/app", none⟩).run {})).1 =
        withWarnings finding.warnings
          (written.run ((Command.compile none ⟨none, some "example.com/app", none⟩).run {})).1 := by
  obtain ⟨hdepth, hcalm⟩ := extracts
  rcases hrun : home.run (Extraction.ofWorkbookAt "kiosk.json" (directory {} none)) with
    ⟨result, written⟩
  rw [hrun] at hdepth hcalm
  obtain ⟨saved, rfl, hseven⟩ := map_eq_ok_iff.1 hdepth
  obtain ⟨workbook, looked, hloaded, hextracted, -, -⟩ := Extraction.ofWorkbookAt_eq_ok hrun
  have hshallow : saved.extraction.toJson.depth ≤ Json.maximumDepth := hseven ▸ by decide
  have hextract : home.run ((Command.extract "kiosk.json" none).run {}) = (.ok _, written) :=
    Disk.run_bind_eq_ok_iff.2 ⟨saved, written, hrun, rfl⟩
  obtain ⟨hread, hrest⟩ :=
    Extraction.compiles_as_saved (Workbook.canonical_of_load hloaded) hextracted
  obtain ⟨-, hruns⟩ := hrest hshallow
  rw [if_pos hshallow] at hread
  refine ⟨workbook, looked, saved.extraction, _, written, hloaded, hextracted, hextract, hread, ?_⟩
  exact (hruns {} "kiosk.json" ⟨none, some "example.com/app", none⟩ home looked written _ hloaded
    hextract hcalm).1

end Kiosk

end SheetSchema
