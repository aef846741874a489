import SheetSchema.Proofs.Files.Contents
import SheetSchema.Storage

/-!
# Actions that only read

Loading settings, workbooks, extractions and documents changes no file, whether it succeeds or not.
-/

namespace SheetSchema

namespace Disk

variable {α β : Type}

/-- Whatever an action results in, it leaves all directories and files as they were. -/
def ReadsOnly (action : ExceptT Error (StateM Disk) α) : Prop :=
  ∀ disk, SameFiles disk (disk.run action).2

/-- What an action that only reads leaves of a disk. -/
theorem ReadsOnly.same {action : ExceptT Error (StateM Disk) α} (reads : ReadsOnly action)
    {disk left : Disk} {result : Except Error α} (done : disk.run action = (result, left)) :
    SameFiles disk left := by
  have hsame := reads disk
  rwa [done] at hsame

theorem readsOnly_pure (value : α) : ReadsOnly (pure value) := fun disk => .refl disk

theorem readsOnly_throw (error : Error) :
    ReadsOnly (throw error : ExceptT Error (StateM Disk) α) := fun disk => .refl disk

theorem readsOnly_except (result : Except Error α) :
    ReadsOnly (liftM result : ExceptT Error (StateM Disk) α) := fun disk => .refl disk

/-- Looking at a path changes no file, though the look may fail. -/
theorem readsOnly_look (path : String) :
    ReadsOnly (liftM (Files.look path : StateM Disk Found)) := fun disk => sameFiles_look disk path

theorem readsOnly_openSpreadsheet (path : String) :
    ReadsOnly (liftM (Files.openSpreadsheet path : StateM Disk (Option Spreadsheet))) :=
  fun disk => sameFiles_openSpreadsheet disk path

/-- Two actions that only read do so one after the other. -/
theorem ReadsOnly.bind {first : ExceptT Error (StateM Disk) α}
    {second : α → ExceptT Error (StateM Disk) β} (reads : ReadsOnly first)
    (next : ∀ value, ReadsOnly (second value)) : ReadsOnly (first >>= second) := by
  intro disk
  rcases hrun : disk.run (first >>= second) with ⟨result, left⟩
  rcases run_bind_eq_iff.1 hrun with ⟨_, hfirst, -⟩ | ⟨value, middle, hfirst, hsecond⟩
  · exact reads.same hfirst
  · exact (reads.same hfirst).trans ((next value).same hsecond)

/-- A text is read by a look and a computation. -/
theorem readsOnly_readText (path : String) :
    ReadsOnly (Files.readText path : ExceptT Error (StateM Disk) String) :=
  (readsOnly_look path).bind fun found => readsOnly_except found.text

end Disk

open Disk

/-! ## Loading -/

/-- Settings are read, if there are any. -/
theorem ProjectSettings.readsOnly_load (path : String) :
    ReadsOnly (ProjectSettings.load path : ExceptT Error (StateM Disk) ProjectSettings) := by
  refine (readsOnly_look path).bind fun found => ?_
  have hread : ReadsOnly (do ProjectSettings.ofText (← found.text) :
      ExceptT Error (StateM Disk) ProjectSettings) :=
    (readsOnly_except _).bind fun text => readsOnly_except (ProjectSettings.ofText text)
  cases found with
  | missing => exact readsOnly_pure _
  | directory => exact hread
  | file contents => exact hread

/-- A workbook is read in any of its formats. -/
theorem Workbook.readsOnly_read (path : String) :
    ReadsOnly (Workbook.read path : ExceptT Error (StateM Disk) (Workbook × List Warning)) := by
  unfold Workbook.read
  split
  · refine (readsOnly_readText path).bind fun text => ?_
    exact (readsOnly_except (ofJsonText text)).bind fun _ => readsOnly_pure _
  · refine (readsOnly_readText path).bind fun text => ?_
    exact (readsOnly_except (ofYamlText text)).bind fun _ => readsOnly_pure _
  · refine (readsOnly_openSpreadsheet path).bind fun spreadsheet? => ?_
    cases spreadsheet? with
    | none => exact readsOnly_throw _
    | some spreadsheet =>
      exact (readsOnly_except spreadsheet.grids).bind fun _ => readsOnly_pure _
  · exact readsOnly_throw _

/-- An extraction is loaded from what was saved of it. -/
theorem Extraction.readsOnly_load (path : String) :
    ReadsOnly (Extraction.load path : ExceptT Error (StateM Disk) Extraction) :=
  (readsOnly_readText path).bind fun text => readsOnly_except (Extraction.ofText text)

/-- Compiling reads the saved extraction and writes nothing yet. -/
theorem Compilation.readsOnly_ofExtractionAt (config : CompilerSettings) (raw : String) :
    ReadsOnly (Compilation.ofExtractionAt config raw : ExceptT Error (StateM Disk) Compilation) :=
  (Extraction.readsOnly_load raw).bind fun extraction =>
    readsOnly_except (Compilation.ofExtraction config extraction)

namespace Documents

/-- A document is read, whether it is there or not. -/
theorem readsOnly_read (directory name : String) :
    ReadsOnly (Documents.read directory name : ExceptT Error (StateM Disk) String) := by
  refine (readsOnly_look _).bind fun found => ?_
  cases found with
  | missing => exact readsOnly_throw _
  | directory => exact readsOnly_except _
  | file contents => exact readsOnly_except _

theorem readsOnly_load {α : Type} (directory name : String) (ofText? : String → Option α) :
    ReadsOnly (Documents.load directory name ofText? : ExceptT Error (StateM Disk) α) := by
  refine (readsOnly_read directory name).bind fun text => ?_
  split
  · exact readsOnly_pure _
  · exact readsOnly_throw _

end Documents

/-- An emitter reads the three documents. -/
theorem Emission.readsOnly_load (directory : String) :
    ReadsOnly (Emission.load directory : ExceptT Error (StateM Disk) Emission) := by
  refine (Documents.readsOnly_load directory _ TypedSchema.ofText?).bind fun schema => ?_
  refine (Documents.readsOnly_load directory _ RouteTable.ofText?).bind fun routes => ?_
  refine (Documents.readsOnly_load directory _ Manifest.ofText?).bind fun manifest => ?_
  exact (readsOnly_except _).bind fun _ => readsOnly_pure _

end SheetSchema
