import SheetSchema.Proofs.Compilation.Emission
import SheetSchema.Proofs.Compilation.Restorable
import SheetSchema.Proofs.Files.Documents
import SheetSchema.Proofs.Manifest.Document
import SheetSchema.Storage

/-!
# Compilations that are saved

The documents of a compilation hold its schema, its routes and its manifest, and an emitter that
loads them from the directory they were saved in gets just these.
-/

namespace SheetSchema

variable {disk left : Disk}

/-! ## Loading documents -/

theorem Documents.run_load_of_holds {α : Type} {directory name text : String}
    {ofText? : String → Option α} {value : α} (calm : disk.faults = [])
    (holds : disk.Holds (Path.join directory name) text.toUTF8) (read : ofText? text = some value) :
    disk.run (Documents.load directory name ofText?) = (.ok value, disk) := by
  unfold Documents.load
  rw [Disk.run_bind, run_read_of_holds calm holds]
  simp only [read, Disk.run_pure]

namespace Compilation

variable {compilation : Compilation} {directory : String}

/-- Every document of a compilation that is saved is held. -/
theorem holds_of_save {paths : List String}
    (saved : disk.run (compilation.save directory) = (.ok paths, left)) :
    ∀ document ∈ compilation.documents,
      left.Holds (Path.join directory document.1) document.2.toUTF8 := by
  have hnames : compilation.documents.map Prod.fst =
      [Names.schemaDocument, Names.routesDocument, Names.manifestDocument] := rfl
  have hplain : ∀ name ∈ compilation.documents.map Prod.fst, Path.IsPlain name := by
    rw [hnames]
    decide
  have hnodup : (compilation.documents.map Prod.fst).Nodup := by
    rw [hnames]
    decide
  exact Documents.holds_of_writeAll (List.forall_mem_map.1 hplain) hnodup saved

/-- Documents that are read as they were written are loaded, if they fit together. -/
theorem run_load_of_holds (calm : disk.faults = [])
    (holds : ∀ document ∈ compilation.documents,
      disk.Holds (Path.join directory document.1) document.2.toUTF8)
    (schema : TypedSchema.ofText? (TypedSchema.toJson compilation.schema).toDocument =
      some compilation.schema)
    (fits : compilation.context.check = .ok ()) :
    disk.run (Emission.load directory) = (.ok compilation.context, disk) := by
  unfold documents at holds
  simp only [List.forall_mem_cons] at holds
  obtain ⟨hschema, hroutes, hmanifest, -⟩ := holds
  have hcheck : disk.run (liftM compilation.context.check) = (.ok (), disk) := by
    rw [Disk.run_except, fits]
  refine Disk.run_bind_eq_ok_iff.2
    ⟨_, disk, Documents.run_load_of_holds calm hschema schema, ?_⟩
  refine Disk.run_bind_eq_ok_iff.2
    ⟨_, disk, Documents.run_load_of_holds calm hroutes (RouteTable.ofText?_toDocument _), ?_⟩
  refine Disk.run_bind_eq_ok_iff.2
    ⟨_, disk, Documents.run_load_of_holds calm hmanifest (Manifest.ofText?_toDocument _), ?_⟩
  exact Disk.run_bind_eq_ok_iff.2 ⟨(), disk, hcheck, rfl⟩

/-! ## The theorem -/

/-- Whatever columns the rows of an extraction have that is read from a text, the documents of its
compilation are read as the schema, the routes and the manifest that they were written from. No
field keeps a column under a reserved name, and no slot is written as null. So an emitter that loads
the documents from where they were saved gets what was compiled, if no operation fails. -/
theorem documents_restore {text : String} {config : CompilerSettings} {extraction : Extraction}
    {compilation : Compilation} (read : Extraction.ofText text = .ok extraction)
    (compiled : ofExtraction config extraction = .ok compilation) :
    TypedSchema.ofText? (TypedSchema.toJson compilation.schema).toDocument =
        some compilation.schema ∧
      RouteTable.ofText? (RouteTable.toJson compilation.routes).toDocument =
        some compilation.routes ∧
      Manifest.ofText? compilation.manifest.toJson.toDocument = some compilation.manifest ∧
      (∀ name fields, compilation.schema.model? name = some fields →
        ∀ entry ∈ fields.entries,
          (∀ column ∈ entry.2.columns.keys, column ∉ TypedField.reservedColumns) ∧
            ∀ member ∈ entry.2.slotMembers, member.2 ≠ .null) ∧
      ∀ (directory : String) (disk left : Disk) (paths : List String),
        disk.run (compilation.save directory) = (.ok paths, left) → left.faults = [] →
          left.run (Emission.load directory) = (.ok compilation.context, left) := by
  have hrestorable := restorable_schema (Extraction.fits_of_ofText read) compiled
  have hschema := TypedSchema.ofText?_toDocument hrestorable
  obtain ⟨raw, resolutions, expanded, -, rfl⟩ := ofExtraction_eq_ok_iff.1 compiled
  have hfits := (derived_assemble config resolutions expanded).check_context
  refine ⟨hschema, RouteTable.ofText?_toDocument _, Manifest.ofText?_toDocument _, ?_, ?_⟩
  · intro name fields hfields entry hentry
    obtain ⟨models, hmodels, hmodel⟩ := Option.bind_eq_some_iff.1 hfields
    have hfield : entry.2.Restorable 123 :=
      OrderedMap.Every.get? (OrderedMap.Every.get? hrestorable hmodels) hmodel entry hentry
    exact ⟨List.forall_mem_map.2 hfield.free, hfield.slotMembers_ne_null⟩
  · intro directory disk left paths hsaved hcalm
    exact run_load_of_holds hcalm (holds_of_save hsaved) hschema hfits

end Compilation

/-! ## An archive

Its rows have columns with reserved names, a default value that nests and one that is null, and two
of its models share a dotted name.
-/

namespace Archive

open Compilation

def title : Row :=
  .ofList [("type", .text "label"), ("Type", .text "string"), ("Length", .null),
    ("MaximumLength", .number (.natural 0xFFFFFFFFFFFFFFFF (Nat.le_of_ble_eq_true rfl))),
    ("DefaultValue", .list [.text "untitled", .record [("draft", .bool true)]]),
    ("api", .text "none"), ("read", .text "required")]

def shelf : Row := .ofList [("Label", .text "Shelf"), ("DefaultValue", .null)]

/-- What the sheets declare. -/
def extraction : Extraction where
  schema := .ofList
    [("archive.old", .ofList [("Book", .ofList [("title", title)])]),
      ("archive", .ofList [("old.Book", .ofList [("shelves.Shelf", shelf)])])]
  partials := .empty

theorem canonical_title : Row.EveryCell Cell.Canonical title := by
  refine OrderedMap.every_ofList ?_
  simp only [List.forall_mem_cons, List.not_mem_nil, false_implies, implies_true, and_true]
  refine ⟨.text _, .text _, .null, .number _, .list ?_, .text _, .text _⟩
  simp only [List.forall_mem_cons, List.not_mem_nil, false_implies, implies_true, and_true]
  exact ⟨.text _, .record (List.pairwise_singleton _ _) (List.forall_mem_singleton.2 (.bool true))⟩

theorem canonical_shelf : Row.EveryCell Cell.Canonical shelf := by
  refine OrderedMap.every_ofList ?_
  simp only [List.forall_mem_cons, List.not_mem_nil, false_implies, implies_true, and_true]
  exact ⟨.text _, .null⟩

theorem canonical_extraction : extraction.EveryCell Cell.Canonical := by
  have hmodel : ∀ {model field : String} {row : Row}, Row.EveryCell Cell.Canonical row →
      RawPackage.EveryCell Cell.Canonical (.ofList [(model, .ofList [(field, row)])]) := by
    intro model field row hrow
    refine OrderedMap.every_ofList (List.forall_mem_singleton.2 ?_)
    exact OrderedMap.every_ofList (List.forall_mem_singleton.2 hrow)
  refine ⟨OrderedMap.every_ofList ?_, OrderedMap.every_empty⟩
  simp only [List.forall_mem_cons, List.not_mem_nil, false_implies, implies_true, and_true]
  exact ⟨hmodel canonical_title, hmodel canonical_shelf⟩

theorem inlineSchema_extraction :
    extraction.partials.inlineSchema extraction.schema = .ok extraction.schema := by cbv

/-- The fields with their types. -/
def resolutions : Typing.Resolutions :=
  (Typing.resolve .standard extraction.schema).toOption.getD .empty

/-- The fields with their relationships in place. -/
def expanded : TypedSchema := (Relations.expandSchema resolutions.schema).toOption.getD .empty

theorem steps : Steps extraction extraction.schema resolutions expanded where
  inlined := inlineSchema_extraction
  resolved := eq_ok_of_isOk (by decide +kernel) .empty
  expanded := eq_ok_of_isOk (by decide +kernel) .empty

/-- What the archive is compiled to. -/
def compilation : Compilation := assemble (.ofModulePath "example.com/app") resolutions expanded

/-- An empty disk. -/
def empty : Disk := {}

/-- The archive is written to an empty disk and loaded again. -/
theorem restores :
    ∃ left, Extraction.ofText extraction.toDocument = .ok extraction ∧
      ofExtraction (.ofModulePath "example.com/app") extraction = .ok compilation ∧
      empty.run (compilation.save "out") =
        (.ok ["out/schema.json", "out/routes.json", "out/manifest.json"], left) ∧
      left.run (Emission.load "out") = (.ok compilation.context, left) := by
  have hshallow : extraction.toJson.depth ≤ Json.maximumDepth := by decide +kernel
  have hread : Extraction.ofText extraction.toDocument = .ok extraction := by
    rw [Extraction.ofText_toDocument canonical_extraction, if_pos hshallow]
  have hcompiled : ofExtraction (.ofModulePath "example.com/app") extraction = .ok compilation :=
    ofExtraction_eq_ok_iff.2 ⟨_, _, _, steps, rfl⟩
  have hsaved : (empty.run (compilation.save "out")).1 =
      .ok ["out/schema.json", "out/routes.json", "out/manifest.json"] := by decide +kernel
  have hcalm : (empty.run (compilation.save "out")).2.faults = [] := by decide +kernel
  rcases hrun : empty.run (compilation.save "out") with ⟨paths, left⟩
  rw [hrun] at hsaved hcalm
  obtain rfl := hsaved
  obtain ⟨-, -, -, -, hload⟩ := documents_restore hread hcompiled
  exact ⟨left, hread, hcompiled, rfl, hload "out" empty left _ hrun hcalm⟩

end Archive

end SheetSchema
