import SheetSchema.Proofs.Extraction.Saved
import SheetSchema.Proofs.Files.Destination
import SheetSchema.Proofs.Files.Reading

/-!
# What commands do to documents

A command replaces the documents of a compilation as a whole and as its last act, so a command that
fails keeps them, and one that succeeds keeps them or leaves those of one compilation. The document
of an extraction is only replaced by an extraction of the command's workbook.
-/

namespace SheetSchema

open Disk (KeepsFiles SameFiles ChangesOnly)

variable {disk left : Disk} {directory : String}

/-- Names of the documents of a compilation. -/
def Names.compiledDocuments : List String :=
  [Names.schemaDocument, Names.routesDocument, Names.manifestDocument]

/-- The document of the extraction is the file of its place in a directory. -/
def Extraction.HeldIn (extraction : Extraction) (folder : Place) (disk : Disk) : Prop :=
  disk.file? (folder ++ [Names.rawDocument]) = some extraction.toDocument.toUTF8

/-- The documents of the compilation are the files of their places in a directory. -/
def Compilation.HeldIn (compilation : Compilation) (folder : Place) (disk : Disk) : Prop :=
  ∀ document ∈ compilation.documents,
    disk.file? (folder ++ [document.1]) = some document.2.toUTF8

/-! ## Saving -/

/-- Saving an extraction that fails keeps all files. -/
theorem Extraction.run_save {extraction : Extraction} {result : Except Error String}
    (done : disk.run (extraction.save directory) = (result, left)) :
    left.current = disk.current ∧
      (KeepsFiles disk left ∨ extraction.HeldIn (disk.destination directory) left) ∧
      ChangesOnly (disk.destination directory) [Names.rawDocument] disk left := by
  have hplain : Path.IsPlain Names.rawDocument := by decide
  have hplains : ∀ document ∈ [(Names.rawDocument, extraction.toDocument)],
      Path.IsPlain document.1 := List.forall_mem_singleton.2 hplain
  rcases Disk.run_bind_eq_iff.1 done with ⟨_, hfailed, -⟩ | ⟨paths, written, hwritten, hend⟩
  · obtain ⟨hkept, hcurrent⟩ := Documents.keepsFiles_of_writeAll_eq_error hfailed
    exact ⟨hcurrent, Or.inl hkept, hkept.changesOnly _ _⟩
  · obtain ⟨-, rfl⟩ := Prod.mk.inj hend
    obtain ⟨hcurrent, hfiles, hothers⟩ :=
      Documents.file?_of_writeAll hplains (List.nodup_singleton _) hwritten
    exact ⟨hcurrent, Or.inr (hfiles _ (List.mem_singleton_self _)), hothers⟩

/-- Saving a compilation that fails keeps all files. -/
theorem Compilation.run_save {compilation : Compilation} {result : Except Error (List String)}
    (done : disk.run (compilation.save directory) = (result, left)) :
    (KeepsFiles disk left ∨
        result.isOk = true ∧ compilation.HeldIn (disk.destination directory) left) ∧
      ChangesOnly (disk.destination directory) Names.compiledDocuments disk left := by
  have hnames : compilation.documents.map Prod.fst = Names.compiledDocuments := rfl
  have hplain : ∀ name ∈ compilation.documents.map Prod.fst, Path.IsPlain name := by
    rw [hnames]
    decide
  have hnodup : (compilation.documents.map Prod.fst).Nodup := by
    rw [hnames]
    decide
  cases result with
  | error error =>
    obtain ⟨hkept, -⟩ := Documents.keepsFiles_of_writeAll_eq_error done
    exact ⟨Or.inl hkept, hkept.changesOnly _ _⟩
  | ok paths =>
    obtain ⟨-, hfiles, hothers⟩ :=
      Documents.file?_of_writeAll (List.forall_mem_map.1 hplain) hnodup done
    exact ⟨Or.inr ⟨rfl, hfiles⟩, hothers⟩

/-! ## Extracting and compiling -/

/-- The workbook of a path is extracted to this extraction. -/
def Disk.Extracts (disk : Disk) (path : String) (extraction : Extraction) : Prop :=
  ∃ workbook looked, disk.run (Workbook.load path) = (.ok workbook, looked) ∧
    Extraction.ofWorkbook workbook = .ok extraction

/-- Extracting keeps all files unless the workbook can be extracted. -/
theorem Extraction.run_ofWorkbookAt {path : String} {result : Except Error Extraction.Saved}
    (done : disk.run (Extraction.ofWorkbookAt path directory) = (result, left)) :
    left.current = disk.current ∧
      (KeepsFiles disk left ∨ ∃ extraction, disk.Extracts path extraction ∧
        extraction.HeldIn (disk.destination directory) left) ∧
      ChangesOnly (disk.destination directory) [Names.rawDocument] disk left := by
  have hkept : ∀ {P : Prop}, SameFiles disk left → left.current = disk.current ∧
      (KeepsFiles disk left ∨ P) ∧
      ChangesOnly (disk.destination directory) [Names.rawDocument] disk left :=
    fun same => ⟨same.current, Or.inl same.keepsFiles, same.keepsFiles.changesOnly _ _⟩
  rcases Disk.run_bind_eq_iff.1 done with
    ⟨_, hfailed, -⟩ | ⟨⟨workbook, warnings⟩, looked, hread, hrest⟩
  · exact hkept ((Workbook.readsOnly_read path).same hfailed)
  · have hlooked : SameFiles disk looked := (Workbook.readsOnly_read path).same hread
    rcases Disk.run_bind_eq_iff.1 hrest with
      ⟨_, hfailed, -⟩ | ⟨extraction, looked', hextracted, hsave⟩
    · obtain ⟨-, rfl⟩ := Disk.run_except_eq_iff.1 hfailed
      exact hkept hlooked
    · obtain ⟨hextraction, rfl⟩ := Disk.run_except_eq_iff.1 hextracted
      have hsaved : disk.Extracts path extraction :=
        ⟨workbook, looked, Workbook.run_load_eq_ok_iff.2 ⟨warnings, hread⟩, hextraction⟩
      obtain ⟨_, hwritten, -⟩ := Disk.run_bind_pure_eq_iff.1 hsave
      obtain ⟨hcurrent, hfile, hothers⟩ := Extraction.run_save hwritten
      rw [Disk.destination_of_current hlooked.current] at hfile hothers
      refine ⟨hcurrent.trans hlooked.current, ?_,
        (hlooked.keepsFiles.changesOnly _ _).trans hothers⟩
      rcases hfile with hfile | hfile
      · exact Or.inl (hlooked.keepsFiles.trans hfile)
      · exact Or.inr ⟨extraction, hsaved, hfile⟩

theorem Compilation.run_ofExtractionAt_eq_ok {config : CompilerSettings} {raw : String}
    {compilation : Compilation}
    (done : disk.run (Compilation.ofExtractionAt config raw) = (.ok compilation, left)) :
    ∃ extraction, Compilation.ofExtraction config extraction = .ok compilation := by
  obtain ⟨extraction, _, -, hcompiled⟩ := Disk.run_bind_eq_ok_iff.1 done
  exact ⟨extraction, (Disk.run_except_eq_iff.1 hcompiled).1⟩

/-! ## Commands -/

namespace CommandLine

/-- The option for the directory of documents, of commands that write some. -/
def Command.outDir? : Command → Option (Option String)
  | extract _ outDir => some outDir
  | compile _ options | build _ options => some options.outDir
  | routes _ | sheets _ | types => none

/-- The workbook that a command extracts. -/
def Command.workbook? : Command → Option String
  | extract workbook _ | build workbook _ => some workbook
  | compile _ _ | routes _ | sheets _ | types => none

/-- What a run does to the documents in a directory. -/
structure Effect (folder : Place) (Extracted : Extraction → Prop) (succeeded : Prop)
    (disk left : Disk) : Prop where
  /-- The documents of a compilation are kept, or they are those of one compilation. -/
  compiled : (∀ name ∈ Names.compiledDocuments,
      left.file? (folder ++ [name]) = disk.file? (folder ++ [name])) ∨
    succeeded ∧ ∃ config extraction compilation,
      Compilation.ofExtraction config extraction = .ok compilation ∧ compilation.HeldIn folder left
  /-- The document of an extraction is kept, or it is that of the extracted workbook. -/
  extracted : left.file? (folder ++ [Names.rawDocument]) =
      disk.file? (folder ++ [Names.rawDocument]) ∨
    ∃ extraction, Extracted extraction ∧ extraction.HeldIn folder left

namespace Effect

variable {folder : Place} {Extracted : Extraction → Prop} {succeeded : Prop}

/-- A run that changes no file does nothing to the documents. -/
theorem of_keepsFiles (keeps : KeepsFiles disk left) :
    Effect folder Extracted succeeded disk left :=
  ⟨Or.inl fun _ _ => keeps _, Or.inl (keeps _)⟩

theorem mono {Extracted' : Extraction → Prop} (effect : Effect folder Extracted succeeded disk left)
    (imp : ∀ extraction, Extracted extraction → Extracted' extraction) :
    Effect folder Extracted' succeeded disk left :=
  ⟨effect.compiled, effect.extracted.imp_right fun ⟨extraction, h, held⟩ =>
    ⟨extraction, imp extraction h, held⟩⟩

/-- Extracting or reading, and then compiling or nothing. -/
theorem trans {middle : Disk} (first : Effect folder Extracted False disk middle)
    (second : Effect folder (fun _ => False) succeeded middle left) :
    Effect folder Extracted succeeded disk left := by
  have hcompiled : ∀ name ∈ Names.compiledDocuments,
      middle.file? (folder ++ [name]) = disk.file? (folder ++ [name]) :=
    first.compiled.resolve_right fun h => h.1
  have hextracted : left.file? (folder ++ [Names.rawDocument]) =
      middle.file? (folder ++ [Names.rawDocument]) :=
    second.extracted.resolve_right fun ⟨_, h, _⟩ => h
  constructor
  case compiled =>
    refine second.compiled.imp_left fun hkept name hname => ?_
    exact (hkept name hname).trans (hcompiled name hname)
  case extracted =>
    unfold Extraction.HeldIn
    rw [hextracted]
    exact first.extracted

end Effect

/-- Extracting writes at most its own document, and that as a whole. -/
theorem effect_of_extracting {path : String} {result : Except Error Extraction.Saved}
    (done : disk.run (Extraction.ofWorkbookAt path directory) = (result, left)) :
    Effect (disk.destination directory) (disk.Extracts path) False disk left := by
  obtain ⟨-, hfile, hothers⟩ := Extraction.run_ofWorkbookAt done
  constructor
  case compiled =>
    have hother : ∀ name ∈ Names.compiledDocuments, name ∉ [Names.rawDocument] := by decide
    exact Or.inl fun name hname => hothers.file?_eq (hother name hname)
  case extracted => exact hfile.imp_left fun hkept => hkept _

/-- Saving a compilation keeps its documents or replaces all of them. -/
theorem effect_of_finish {config : CompilerSettings} {extraction : Extraction}
    {compilation : Compilation} {warnings : List Warning} {result : Except Error Finding}
    (compiled : Compilation.ofExtraction config extraction = .ok compilation)
    (done : disk.run (finish compilation directory warnings) = (result, left)) :
    Effect (disk.destination directory) (fun _ => False) (result.isOk = true) disk left := by
  obtain ⟨outcome, hsaved, rfl⟩ := Disk.run_bind_pure_eq_iff.1 done
  obtain ⟨hfiles, hothers⟩ := Compilation.run_save hsaved
  constructor
  case compiled =>
    rcases hfiles with hkept | ⟨hok, hheld⟩
    · exact Or.inl fun _ _ => hkept _
    · refine Or.inr ⟨?_, config, extraction, compilation, compiled, hheld⟩
      cases outcome with
      | error error => contradiction
      | ok paths => rfl
  case extracted =>
    have hother : Names.rawDocument ∉ Names.compiledDocuments := by decide
    exact Or.inl (hothers.file?_eq hother)

/-- The workbook of a command is extracted to this extraction. -/
def Command.Extracts (command : Command) (disk : Disk) (extraction : Extraction) : Prop :=
  ∃ path, command.workbook? = some path ∧ disk.Extracts path extraction

section

variable {folder : Place} {project : ProjectSettings} {result : Except Error Finding}

theorem effect_of_extract {workbook : String} {outDir : Option String}
    (goes : disk.destination (CommandLine.directory project outDir) = folder)
    (done : disk.run ((Command.extract workbook outDir).run project) = (result, left)) :
    Effect folder ((Command.extract workbook outDir).Extracts disk) (result.isOk = true)
      disk left := by
  obtain ⟨_, hsaved, -⟩ := Disk.run_bind_pure_eq_iff.1 done
  have heffect := effect_of_extracting hsaved
  rw [goes] at heffect
  exact (heffect.mono fun _ hextracts => ⟨workbook, rfl, hextracts⟩).trans
    (.of_keepsFiles fun _ => rfl)

theorem effect_of_compile {raw : Option String} {options : CompileFlags}
    (goes : disk.destination (CommandLine.directory project options.outDir) = folder)
    (done : disk.run ((Command.compile raw options).run project) = (result, left)) :
    Effect folder ((Command.compile raw options).Extracts disk) (result.isOk = true)
      disk left := by
  rcases Disk.run_bind_eq_iff.1 done with ⟨_, hinvalid, -⟩ | ⟨config, valid, hvalid, hrest⟩
  · obtain ⟨-, rfl⟩ := Disk.run_except_eq_iff.1 hinvalid
    exact .of_keepsFiles fun _ => rfl
  · obtain ⟨-, rfl⟩ := Disk.run_except_eq_iff.1 hvalid
    have hreads := Compilation.readsOnly_ofExtractionAt config
      (raw.getD (Path.join (CommandLine.directory project options.outDir) Names.rawDocument))
    rcases Disk.run_bind_eq_iff.1 hrest with
      ⟨_, hfailed, -⟩ | ⟨compilation, loaded, hloaded, hfinish⟩
    · exact .of_keepsFiles (hreads.same hfailed).keepsFiles
    · have hsame : SameFiles disk loaded := hreads.same hloaded
      obtain ⟨extraction, hcompiled⟩ := Compilation.run_ofExtractionAt_eq_ok hloaded
      have heffect := effect_of_finish hcompiled hfinish
      rw [Disk.destination_of_current hsame.current, goes] at heffect
      exact .trans (.of_keepsFiles hsame.keepsFiles) heffect

/-- A build extracts and then compiles, in one directory. -/
theorem effect_of_build {workbook : String} {options : CompileFlags}
    (goes : disk.destination (CommandLine.directory project options.outDir) = folder)
    (done : disk.run ((Command.build workbook options).run project) = (result, left)) :
    Effect folder ((Command.build workbook options).Extracts disk) (result.isOk = true)
      disk left := by
  rcases Disk.run_bind_eq_iff.1 done with ⟨_, hinvalid, -⟩ | ⟨config, valid, hvalid, hrest⟩
  · obtain ⟨-, rfl⟩ := Disk.run_except_eq_iff.1 hinvalid
    exact .of_keepsFiles fun _ => rfl
  · obtain ⟨-, rfl⟩ := Disk.run_except_eq_iff.1 hvalid
    -- what extracting does stays, whether or not the extraction compiles
    have hextracting : ∀ {outcome middle}, disk.run (Extraction.ofWorkbookAt workbook
        (CommandLine.directory project options.outDir)) = (outcome, middle) →
        Effect folder ((Command.build workbook options).Extracts disk) False disk middle := by
      intro outcome middle hsaved
      have heffect := effect_of_extracting hsaved
      rw [goes] at heffect
      exact heffect.mono fun _ hextracts => ⟨workbook, rfl, hextracts⟩
    rcases Disk.run_bind_eq_iff.1 hrest with ⟨_, hfailed, -⟩ | ⟨saved, middle, hsaved, hcompile⟩
    · exact (hextracting hfailed).trans (.of_keepsFiles fun _ => rfl)
    · -- the documents of the compilation are written last, on the disk that extracting left
      refine (hextracting hsaved).trans ?_
      rcases Disk.run_bind_eq_iff.1 hcompile with
        ⟨_, hfailed, -⟩ | ⟨compilation, compiled, hcompiled, hfinish⟩
      · obtain ⟨-, rfl⟩ := Disk.run_except_eq_iff.1 hfailed
        exact .of_keepsFiles fun _ => rfl
      · obtain ⟨hcompilation, rfl⟩ := Disk.run_except_eq_iff.1 hcompiled
        have heffect := effect_of_finish hcompilation hfinish
        have hcurrent : middle.current = disk.current := (Extraction.run_ofWorkbookAt hsaved).1
        rwa [Disk.destination_of_current hcurrent, goes] at heffect

/-- What a command does to the documents in the directory that it writes into, if it writes any. -/
theorem Command.effect {command : Command}
    (goes : ∀ outDir, command.outDir? = some outDir →
      disk.destination (CommandLine.directory project outDir) = folder)
    (done : disk.run (command.run project) = (result, left)) :
    Effect folder (command.Extracts disk) (result.isOk = true) disk left := by
  cases command with
  | extract workbook outDir => exact effect_of_extract (goes outDir rfl) done
  | compile raw options => exact effect_of_compile (goes options.outDir rfl) done
  | build workbook options => exact effect_of_build (goes options.outDir rfl) done
  | routes outDir =>
    obtain ⟨_, hloaded, -⟩ := Disk.run_bind_pure_eq_iff.1 done
    exact .of_keepsFiles ((Emission.readsOnly_load _).same hloaded).keepsFiles
  | sheets workbook =>
    obtain ⟨_, hread, -⟩ := Disk.run_bind_pure_eq_iff.1 done
    exact .of_keepsFiles ((Workbook.readsOnly_read _).same hread).keepsFiles
  | types =>
    obtain ⟨-, rfl⟩ := Prod.mk.inj done
    exact .of_keepsFiles fun _ => rfl

end

end CommandLine

end SheetSchema
