import SheetSchema.Proofs.Extraction.Identifiers
import SheetSchema.Proofs.Relations.Faults

/-!
# Extracted models as targets

A sheet may have any name, but a relationship cuts the dotted name of its target at the first dot.
So a model of a workbook can be pointed at exactly if the name of its sheet is neither empty nor
dotted, and any other dotted name of a model is refused as a malformed relationship. A name that is
read as a target is the dotted name of that target.
-/

namespace SheetSchema

namespace ModelName

/-- The dotted name of a model points at a model only where it is read as this one. -/
theorem pointsAtModel_qualified_iff {name : ModelName}
    (identifier : Text.isIdentifier name.model = true) :
    PointsAtModel name.qualified ↔ name.package ≠ "" ∧ '.' ∉ name.package.toList := by
  constructor
  · intro hpoints
    obtain ⟨target, hsame, hnamed, hundotted, hmodel⟩ := hpoints
    -- both models are named by identifiers, so one dotted name stands for one model
    obtain rfl := eq_of_qualified_eq identifier hmodel hsame
    exact ⟨hnamed, hundotted⟩
  · intro h
    exact ⟨name, rfl, h.1, h.2, identifier⟩

/-- Reading the dotted name of a model gives the model back or refuses the name. -/
theorem ofKey?_qualified {name : ModelName} (identifier : Text.isIdentifier name.model = true) :
    ofKey? name.qualified = some
      (if name.package = "" ∨ '.' ∈ name.package.toList then
        .error (.malformedRelationship name.qualified)
      else .ok name) := by
  split
  · next hpackage =>
    have hpoints : ¬ PointsAtModel name.qualified := by
      rw [pointsAtModel_qualified_iff identifier]
      tauto
    exact ofKey?_eq_error_iff.2 ⟨dot_mem_qualified name, hpoints, rfl⟩
  · next hpackage =>
    obtain ⟨hnamed, hundotted⟩ := not_or.1 hpackage
    exact ofKey?_eq_ok_iff.2 ⟨rfl, hnamed, hundotted, identifier⟩

end ModelName

/-- The dotted name of every model of a workbook is read as this model, unless its sheet has no
name or a dotted one: then it is refused. Whatever is read as a target is its dotted name. -/
theorem Extraction.targets_of_workbook {workbook : Workbook} {extraction : Extraction}
    (done : ofWorkbook workbook = .ok extraction) :
    (∀ name ∈ extraction.schema.names, ModelName.ofKey? name.qualified = some
      (if name.package = "" ∨ '.' ∈ name.package.toList then
        .error (.malformedRelationship name.qualified)
      else .ok name)) ∧
    ∀ key target, ModelName.ofKey? key = some (.ok target) → target.qualified = key := by
  constructor
  · intro name hname
    exact ModelName.ofKey?_qualified (identified_ofWorkbook done name hname)
  · intro key target htarget
    exact (ModelName.ofKey?_eq_ok_iff.1 htarget).1.symm

/-! ## A forum

Its users are kept in a sheet of a dotted name, and its guests in one without a name.
-/

namespace Forum

/-- The sheets of the forum. -/
def workbook : Workbook := ⟨[
  ⟨"accounts.eu", [
    .ofList [("Model", .text "User"), ("Field", .text "id"), ("Type", .text "uuid")]]⟩,
  ⟨"", [
    .ofList [("Model", .text "Guest"), ("Field", .text "id"), ("Type", .text "uuid")]]⟩,
  ⟨"blog", [
    .ofList [("Model", .text "Post"), ("Field", .text "accounts.eu.User")],
    .ofList [("Model", .text "Comment"), ("Field", .text "blog.Post")]]⟩]⟩

/-- What the sheets declare. -/
def extraction : Extraction where
  schema := .ofList [
    ("accounts.eu", .ofList [("User", .ofList [("id", .ofList [("Type", .text "uuid")])])]),
    ("", .ofList [("Guest", .ofList [("id", .ofList [("Type", .text "uuid")])])]),
    ("blog", .ofList [
      ("Post", .ofList [("accounts.eu.User", .empty)]),
      ("Comment", .ofList [("blog.Post", .empty)])])]
  partials := .empty

theorem extracted : Extraction.ofWorkbook workbook = .ok extraction := by rfl

theorem names_schema : extraction.schema.names =
    [⟨"accounts.eu", "User"⟩, ⟨"", "Guest"⟩, ⟨"blog", "Post"⟩, ⟨"blog", "Comment"⟩] := by rfl

/-- Comments can point at posts. -/
theorem posts_are_targets :
    Extraction.ofWorkbook workbook = .ok extraction ∧
      ⟨"blog", "Post"⟩ ∈ extraction.schema.names ∧
      ModelName.ofKey? (ModelName.qualified ⟨"blog", "Post"⟩) = some (.ok ⟨"blog", "Post"⟩) ∧
      ModelName.qualified ⟨"blog", "Post"⟩ = "blog.Post" := by
  obtain ⟨hread, hback⟩ := Extraction.targets_of_workbook extracted
  have hlisted : ⟨"blog", "Post"⟩ ∈ extraction.schema.names := by
    rw [names_schema]
    decide
  have hpost := hread _ hlisted
  rw [if_neg (by decide)] at hpost
  exact ⟨extracted, hlisted, hpost, hback _ _ hpost⟩

/-- No field can point at users or at guests, although their sheets are extracted like the other
one. -/
theorem users_are_no_targets :
    Extraction.ofWorkbook workbook = .ok extraction ∧
      ⟨"accounts.eu", "User"⟩ ∈ extraction.schema.names ∧
      ModelName.ofKey? (ModelName.qualified ⟨"accounts.eu", "User"⟩) =
        some (.error (.malformedRelationship "accounts.eu.User")) ∧
      ⟨"", "Guest"⟩ ∈ extraction.schema.names ∧
      ModelName.ofKey? (ModelName.qualified ⟨"", "Guest"⟩) =
        some (.error (.malformedRelationship ".Guest")) ∧
      ¬ ∀ name ∈ extraction.schema.names, ModelName.ofKey? name.qualified = some (.ok name) := by
  have hlisted : ⟨"accounts.eu", "User"⟩ ∈ extraction.schema.names ∧
      ⟨"", "Guest"⟩ ∈ extraction.schema.names := by
    rw [names_schema]
    decide
  have huser : ModelName.ofKey? (ModelName.qualified ⟨"accounts.eu", "User"⟩) =
      some (.error (.malformedRelationship "accounts.eu.User")) := by
    rw [ModelName.ofKey?_qualified (by decide), if_pos (Or.inr (by decide))]
    rfl
  have hguest : ModelName.ofKey? (ModelName.qualified ⟨"", "Guest"⟩) =
      some (.error (.malformedRelationship ".Guest")) := by
    rw [ModelName.ofKey?_qualified (by decide), if_pos (Or.inl rfl)]
    rfl
  refine ⟨extracted, hlisted.1, huser, hlisted.2, hguest, fun hread => ?_⟩
  have htarget := hread _ hlisted.1
  rw [huser] at htarget
  contradiction

end Forum

end SheetSchema
