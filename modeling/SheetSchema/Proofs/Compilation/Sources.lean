import SheetSchema.Proofs.Compilation.Steps
import SheetSchema.Proofs.Text.SnakeCase

/-!
# Source files of models

An emitter writes the source of a model to a file of its package that is named by the snake case of
the model. Nothing checks that these files differ: the models of a package share a file exactly if
they have the same words, and a model whose name is made of underscores has a file without a name.
-/

namespace SheetSchema

/-- Path of the source file of a model, without its extension. -/
def ModelEntry.sourcePath (entry : ModelEntry) : String :=
  entry.name.package ++ "/" ++ entry.fileStem

/-- A stem has no slash, so a path is cut at its last one. -/
theorem ModelEntry.sourcePath_eq_iff {first second : ModelEntry}
    (hfirst : '/' ∉ first.fileStem.toList) (hsecond : '/' ∉ second.fileStem.toList) :
    first.sourcePath = second.sourcePath ↔
      first.name.package = second.name.package ∧ first.fileStem = second.fileStem := by
  have hsplit : ∀ entry : ModelEntry, '/' ∉ entry.fileStem.toList →
      entry.sourcePath.toList.splitOn '/' =
        entry.name.package.toList.splitOn '/' ++ [entry.fileStem.toList] := by
    intro entry hstem
    have hchars : entry.sourcePath.toList =
        entry.name.package.toList ++ '/' :: entry.fileStem.toList := by
      simp [sourcePath, String.toList_append]
    rw [hchars, List.splitOn, List.splitOnP_append_cons _ _ (by rfl), ← List.splitOn,
      ← List.splitOn, List.splitOn_eq_singleton hstem]
  constructor
  · intro same
    have hparts := hsplit first hfirst
    rw [same, hsplit second hsecond] at hparts
    obtain ⟨hpackage, hstem⟩ := List.append_inj' hparts rfl
    refine ⟨?_, String.toList_inj.1 (List.singleton_inj.1 hstem).symm⟩
    have hjoined := congrArg (List.intercalate ['/']) hpackage
    rw [List.intercalate_splitOn, List.intercalate_splitOn] at hjoined
    exact String.toList_inj.1 hjoined.symm
  · intro h
    rw [sourcePath, sourcePath, h.1, h.2]

/-- Every model of a manifest has a source file with a name, which it shares with no other model of
its package. -/
structure Manifest.SourcesIdentify (manifest : Manifest) : Prop where
  named : ∀ key entry, manifest.models.get? key = some entry → entry.fileStem ≠ ""
  apart : ∀ key entry key' entry', manifest.models.get? key = some entry →
    manifest.models.get? key' = some entry' → entry.name.package = entry'.name.package →
    entry.fileStem = entry'.fileStem → key = key'

namespace Compilation

variable {workbook : Workbook} {config : CompilerSettings} {extraction : Extraction}
  {compilation : Compilation}

/-- An entry of the manifest is about a model of the workbook, under its dotted name. -/
theorem entry_of_workbook (compiled : ofExtraction config extraction = .ok compilation)
    {key : String} {entry : ModelEntry}
    (found : compilation.manifest.models.get? key = some entry) :
    entry.name ∈ extraction.schema.names ∧ key = entry.name.qualified ∧
      entry.fileStem = Text.snakeCase entry.name.model := by
  obtain ⟨raw, resolutions, expanded, hsteps, rfl⟩ := ofExtraction_eq_ok_iff.1 compiled
  rw [(derived_assemble config resolutions expanded).manifest] at found
  obtain ⟨fields, hfields, hkey, hentry⟩ := Manifest.model?_of_get?_ofSchema found
  refine ⟨?_, hkey, by rw [hentry]; rfl⟩
  rw [← hsteps.names_extracted config]
  exact Packages.mem_names_iff.2 ⟨fields, hfields⟩

/-- Every model of the workbook has its own entry. -/
theorem exists_entry_of_workbook (extracted : Extraction.ofWorkbook workbook = .ok extraction)
    (compiled : ofExtraction config extraction = .ok compilation) {name : ModelName}
    (declared : name ∈ extraction.schema.names) :
    ∃ entry, compilation.manifest.models.get? name.qualified = some entry ∧ entry.name = name := by
  obtain ⟨raw, resolutions, expanded, hsteps, rfl⟩ := ofExtraction_eq_ok_iff.1 compiled
  rw [← hsteps.names_extracted config] at declared
  obtain ⟨fields, hfields⟩ := Packages.mem_names_iff.1 declared
  have hapart := hsteps.toldApart extracted config
  exact ⟨_, (derived_assemble config resolutions expanded).get?_manifest hfields
    fun other hother same => hapart other hother name declared same, rfl⟩

section Stems

variable {key key' : String} {entry entry' : ModelEntry}

/-- The stem of an entry is the snake case of an identifier. -/
theorem fileStem_of_workbook (extracted : Extraction.ofWorkbook workbook = .ok extraction)
    (compiled : ofExtraction config extraction = .ok compilation)
    (found : compilation.manifest.models.get? key = some entry) :
    Text.isIdentifier entry.name.model = true ∧
      entry.fileStem = Text.snakeCase entry.name.model := by
  obtain ⟨hname, -, hstem⟩ := entry_of_workbook compiled found
  exact ⟨Extraction.identified_ofWorkbook extracted entry.name hname, hstem⟩

/-- A file has a name unless the model is called by underscores alone. -/
theorem fileStem_eq_empty_iff (extracted : Extraction.ofWorkbook workbook = .ok extraction)
    (compiled : ofExtraction config extraction = .ok compilation)
    (found : compilation.manifest.models.get? key = some entry) :
    entry.fileStem = "" ↔ ∀ c ∈ entry.name.model.toList, c = '_' := by
  obtain ⟨hidentifier, hstem⟩ := fileStem_of_workbook extracted compiled found
  rw [hstem, Text.snakeCase_eq_empty_iff hidentifier]

/-- Models of a package share a file exactly if their words are the same. -/
theorem fileStem_eq_iff (extracted : Extraction.ofWorkbook workbook = .ok extraction)
    (compiled : ofExtraction config extraction = .ok compilation)
    (found : compilation.manifest.models.get? key = some entry)
    (found' : compilation.manifest.models.get? key' = some entry') :
    entry.fileStem = entry'.fileStem ↔
      Text.words entry.name.model = Text.words entry'.name.model := by
  obtain ⟨hidentifier, hstem⟩ := fileStem_of_workbook extracted compiled found
  obtain ⟨hidentifier', hstem'⟩ := fileStem_of_workbook extracted compiled found'
  rw [hstem, hstem', Text.snakeCase_eq_iff hidentifier hidentifier']

theorem slash_notMem_fileStem (extracted : Extraction.ofWorkbook workbook = .ok extraction)
    (compiled : ofExtraction config extraction = .ok compilation)
    (found : compilation.manifest.models.get? key = some entry) :
    '/' ∉ entry.fileStem.toList := by
  obtain ⟨hidentifier, hstem⟩ := fileStem_of_workbook extracted compiled found
  intro hmem
  rw [hstem] at hmem
  exact absurd (Text.mem_snakeCase hidentifier '/' hmem) (by decide)

end Stems

/-- All models have source files of their own exactly if none is named by underscores alone and no
package has two models with the same words. -/
theorem sourcesIdentify_iff (extracted : Extraction.ofWorkbook workbook = .ok extraction)
    (compiled : ofExtraction config extraction = .ok compilation) :
    compilation.manifest.SourcesIdentify ↔
      (∀ name ∈ extraction.schema.names, ∃ c ∈ name.model.toList, c ≠ '_') ∧
        ∀ name ∈ extraction.schema.names, ∀ other ∈ extraction.schema.names,
          name.package = other.package → Text.words name.model = Text.words other.model →
            name = other := by
  have hidentified := Extraction.identified_ofWorkbook extracted
  constructor
  · intro identify
    refine ⟨?_, ?_⟩
    · intro name hname
      obtain ⟨entry, hentry, rfl⟩ := exists_entry_of_workbook extracted compiled hname
      have hstem := identify.named _ entry hentry
      rw [ne_eq, fileStem_eq_empty_iff extracted compiled hentry] at hstem
      simpa using hstem
    · intro name hname other hother hpackage hwords
      obtain ⟨entry, hentry, rfl⟩ := exists_entry_of_workbook extracted compiled hname
      obtain ⟨entry', hentry', rfl⟩ := exists_entry_of_workbook extracted compiled hother
      have hkey := identify.apart _ entry _ entry' hentry hentry' hpackage
        ((fileStem_eq_iff extracted compiled hentry hentry').2 hwords)
      exact hidentified.toldApart _ hname _ hother hkey
  · intro h
    obtain ⟨hnamed, hwords⟩ := h
    refine ⟨?_, ?_⟩
    · intro key entry hentry
      obtain ⟨hname, -, -⟩ := entry_of_workbook compiled hentry
      rw [ne_eq, fileStem_eq_empty_iff extracted compiled hentry]
      simpa using hnamed entry.name hname
    · intro key entry key' entry' hentry hentry' hpackage hstem
      obtain ⟨hname, hkey, -⟩ := entry_of_workbook compiled hentry
      obtain ⟨hname', hkey', -⟩ := entry_of_workbook compiled hentry'
      rw [hkey, hkey', hwords _ hname _ hname' hpackage
        ((fileStem_eq_iff extracted compiled hentry hentry').1 hstem)]

/-- A model has no file stem exactly if it is named by underscores alone, and two models have one
source path exactly if they are models of one package with the same words. So all models have source
files of their own exactly if neither happens in the workbook. -/
theorem sources_identify_where_words_differ
    (extracted : Extraction.ofWorkbook workbook = .ok extraction)
    (compiled : ofExtraction config extraction = .ok compilation) :
    (∀ key entry, compilation.manifest.models.get? key = some entry →
      (entry.fileStem = "" ↔ ∀ c ∈ entry.name.model.toList, c = '_')) ∧
    (∀ key entry key' entry', compilation.manifest.models.get? key = some entry →
      compilation.manifest.models.get? key' = some entry' →
        (entry.sourcePath = entry'.sourcePath ↔
          entry.name.package = entry'.name.package ∧
            Text.words entry.name.model = Text.words entry'.name.model)) ∧
    (compilation.manifest.SourcesIdentify ↔
      (∀ name ∈ extraction.schema.names, ∃ c ∈ name.model.toList, c ≠ '_') ∧
        ∀ name ∈ extraction.schema.names, ∀ other ∈ extraction.schema.names,
          name.package = other.package → Text.words name.model = Text.words other.model →
            name = other) := by
  refine ⟨fun _ _ => fileStem_eq_empty_iff extracted compiled, ?_,
    sourcesIdentify_iff extracted compiled⟩
  intro key entry key' entry' hentry hentry'
  rw [ModelEntry.sourcePath_eq_iff (slash_notMem_fileStem extracted compiled hentry)
      (slash_notMem_fileStem extracted compiled hentry'),
    fileStem_eq_iff extracted compiled hentry hentry']

end Compilation

/-! ## A cluster

Two of its models are of one package and share a word, and one has the words of a model of the other
package.
-/

namespace Cluster

/-- A row that declares a model with one field. -/
def declaring (model : String) : Row :=
  .ofList [("Model", .text model), ("Field", .text "id"), ("Type", .text "uuid")]

/-- The sheets of the cluster. -/
def workbook : Workbook := ⟨[
  ⟨"net", [declaring "HttpServer", declaring "HTTPProxy"]⟩,
  ⟨"web", [declaring "HTTPServer"]⟩]⟩

def model : RawModel := .ofList [("id", .ofList [("Type", .text "uuid")])]

/-- What the sheets declare. -/
def extraction : Extraction where
  schema := .ofList [("net", .ofList [("HttpServer", model), ("HTTPProxy", model)]),
    ("web", .ofList [("HTTPServer", model)])]
  partials := .empty

theorem extracted : Extraction.ofWorkbook workbook = .ok extraction := by rfl

theorem inlineSchema_extraction :
    extraction.partials.inlineSchema extraction.schema = .ok extraction.schema := by cbv

/-- The servers are told apart by their packages, and the models of one package by their words. -/
theorem sources_identify_in_cluster :
    ∃ compilation, Extraction.ofWorkbook workbook = .ok extraction ∧
      Compilation.ofExtraction (.ofModulePath "example.com/net") extraction = .ok compilation ∧
      (["net.HttpServer", "net.HTTPProxy", "web.HTTPServer"].map fun key =>
        (compilation.manifest.models.get? key).map ModelEntry.sourcePath) =
        [some "net/http_server", some "net/http_proxy", some "web/http_server"] ∧
      compilation.manifest.SourcesIdentify := by
  have hrun : (Compilation.ofExtraction (.ofModulePath "example.com/net") extraction).map
      (fun compilation => ["net.HttpServer", "net.HTTPProxy", "web.HTTPServer"].map fun key =>
        (compilation.manifest.models.get? key).map ModelEntry.sourcePath) =
        .ok [some "net/http_server", some "net/http_proxy", some "web/http_server"] := by
    rw [Compilation.ofExtraction_of_inlined inlineSchema_extraction]
    decide +kernel
  obtain ⟨compilation, hcompiled, hpaths⟩ := map_eq_ok_iff.1 hrun
  refine ⟨compilation, extracted, hcompiled, hpaths, ?_⟩
  have hnames : extraction.schema.names =
      [⟨"net", "HttpServer"⟩, ⟨"net", "HTTPProxy"⟩, ⟨"web", "HTTPServer"⟩] := by rfl
  refine (Compilation.sources_identify_where_words_differ extracted hcompiled).2.2.2 ⟨?_, ?_⟩
  · have hletter : ∀ name ∈ extraction.schema.names, 'H' ∈ name.model.toList := by
      rw [hnames]
      decide
    exact fun name hname => ⟨'H', hletter name hname, by decide⟩
  · -- two of the three are of one package, and their last words differ
    rw [hnames]
    decide +kernel

end Cluster

/-! ## A network

Two of its models are told apart by case only, and one has no word.
-/

namespace Network

/-- The one sheet of the network. -/
def workbook : Workbook := ⟨[
  ⟨"net", [
    .ofList [("Model", .text "HttpServer"), ("Field", .text "id"), ("Type", .text "uuid")],
    .ofList [("Model", .text "HTTPServer"), ("Field", .text "id"), ("Type", .text "uuid")],
    .ofList [("Model", .text "_"), ("Field", .text "id"), ("Type", .text "uuid")]]⟩]⟩

def model : RawModel := .ofList [("id", .ofList [("Type", .text "uuid")])]

/-- What the sheet declares. -/
def extraction : Extraction where
  schema := .ofList [("net", .ofList [("HttpServer", model), ("HTTPServer", model), ("_", model)])]
  partials := .empty

theorem extracted : Extraction.ofWorkbook workbook = .ok extraction := by rfl

theorem inlineSchema_extraction :
    extraction.partials.inlineSchema extraction.schema = .ok extraction.schema := by cbv

/-- The servers have one source file, and the third model has one without a name. -/
theorem servers_share_source :
    ∃ compilation, Extraction.ofWorkbook workbook = .ok extraction ∧
      Compilation.ofExtraction (.ofModulePath "example.com/net") extraction = .ok compilation ∧
      (compilation.manifest.models.get? "net.HttpServer").map ModelEntry.fileStem =
        some "http_server" ∧
      (compilation.manifest.models.get? "net.HTTPServer").map ModelEntry.fileStem =
        some "http_server" ∧
      (compilation.manifest.models.get? "net._").map ModelEntry.fileStem = some "" ∧
      ¬ compilation.manifest.SourcesIdentify := by
  have hrun : (Compilation.ofExtraction (.ofModulePath "example.com/net") extraction).map
      (fun compilation => ["net.HttpServer", "net.HTTPServer", "net._"].map fun key =>
        (compilation.manifest.models.get? key).map ModelEntry.fileStem) =
        .ok [some "http_server", some "http_server", some ""] := by
    rw [Compilation.ofExtraction_of_inlined inlineSchema_extraction]
    decide +kernel
  obtain ⟨compilation, hcompiled, hstems⟩ := map_eq_ok_iff.1 hrun
  simp only [List.map_cons, List.map_nil, List.cons.injEq, and_true] at hstems
  obtain ⟨hserver, hserver', hother⟩ := hstems
  refine ⟨compilation, extracted, hcompiled, hserver, hserver', hother, ?_⟩
  intro identify
  obtain ⟨other, hfound, hstem⟩ := Option.map_eq_some_iff.1 hother
  exact identify.named _ other hfound hstem

end Network

end SheetSchema
