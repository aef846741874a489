import Mathlib.Data.List.TakeDrop
import Mathlib.Data.List.TakeWhile
import SheetSchema.Relations

/-!
# Dotted names

Tables of models are keyed by dotted names. A dotted name determines its model as long as the part
after the last dot is an identifier, and a relationship key, which is cut at its first dot, names
its target in the same way.
-/

namespace SheetSchema.ModelName

/-! ## Identifiers -/

/-- An identifier has no dot. -/
theorem dot_notMem_of_isIdentifier {text : String} (identifier : Text.isIdentifier text = true) :
    '.' ∉ text.toList := by
  unfold Text.isIdentifier at identifier
  intro hdot
  cases hchars : text.toList with
  | nil => simp [hchars] at hdot
  | cons c rest =>
    rw [hchars] at identifier hdot
    rw [Bool.and_eq_true, List.all_eq_true] at identifier
    obtain ⟨hstart, hrest⟩ := identifier
    rcases List.mem_cons.1 hdot with rfl | hmem
    · exact absurd hstart (by decide)
    · exact absurd (hrest '.' hmem) (by decide)

/-! ## Cutting at a dot -/

/-- A text without a dot, read character by character. -/
theorem ne_dot_of_mem {chars : List Char} (h : '.' ∉ chars) : ∀ c ∈ chars, (c != '.') = true := by
  intro c hc
  have hne : c ≠ '.' := fun same => h (same ▸ hc)
  simpa using hne

/-- Cutting a text at its first dot. -/
theorem span_dot {before after : List Char} (hbefore : '.' ∉ before) :
    (before ++ '.' :: after).span (· != '.') = (before, '.' :: after) := by
  have hall := ne_dot_of_mem hbefore
  rw [List.span_eq_takeWhile_dropWhile, List.takeWhile_append_of_pos hall,
    List.dropWhile_append_of_pos hall]
  simp

/-- A text without a dot is not cut. -/
theorem span_of_notMem {chars : List Char} (h : '.' ∉ chars) :
    chars.span (· != '.') = (chars, []) := by
  have hall := ne_dot_of_mem h
  rw [List.span_eq_takeWhile_dropWhile, List.takeWhile_eq_self_iff.2 hall,
    List.dropWhile_eq_nil_iff.2 hall]

/-! ## Dotted names of models -/

theorem toList_qualified (name : ModelName) :
    name.qualified.toList = name.package.toList ++ '.' :: name.model.toList := by
  simp [qualified, String.toList_append]

theorem dropWhile_of_notMem {chars : List Char} (h : '.' ∉ chars) :
    chars.dropWhile (· != '.') = [] := by
  have hspan := span_of_notMem h
  rw [List.span_eq_takeWhile_dropWhile] at hspan
  exact (Prod.mk.inj hspan).2

/-- Where the package has no dot, the model is what follows the first one. -/
theorem dropWhile_qualified {name : ModelName} (package : '.' ∉ name.package.toList) :
    name.qualified.toList.dropWhile (· != '.') = '.' :: name.model.toList := by
  have hspan := @span_dot name.package.toList name.model.toList package
  rw [List.span_eq_takeWhile_dropWhile, ← toList_qualified] at hspan
  exact (Prod.mk.inj hspan).2

/-- The last dot ends the package, since an identifier has none. -/
theorem eq_of_qualified_eq {first second : ModelName}
    (hfirst : Text.isIdentifier first.model = true)
    (hsecond : Text.isIdentifier second.model = true)
    (same : first.qualified = second.qualified) : first = second := by
  have hchars : first.package.toList ++ '.' :: first.model.toList =
      second.package.toList ++ '.' :: second.model.toList := by
    rw [← toList_qualified, ← toList_qualified, same]
  -- read backwards, both names are cut at their first dot
  have hreverse := congrArg List.reverse hchars
  simp only [List.reverse_append, List.reverse_cons, List.append_assoc, List.singleton_append]
    at hreverse
  have hnodot : '.' ∉ first.model.toList.reverse := by
    rw [List.mem_reverse]
    exact dot_notMem_of_isIdentifier hfirst
  have hnodot' : '.' ∉ second.model.toList.reverse := by
    rw [List.mem_reverse]
    exact dot_notMem_of_isIdentifier hsecond
  have hcut := congrArg (List.span (· != '.')) hreverse
  rw [span_dot hnodot, span_dot hnodot'] at hcut
  simp only [Prod.mk.injEq, List.cons.injEq, true_and, List.reverse_inj, String.toList_inj]
    at hcut
  obtain ⟨hmodel, hpackage⟩ := hcut
  cases first
  cases second
  simp_all

/-! ## Relationship keys -/

theorem ofKey?_of_notMem {key : String} (h : '.' ∉ key.toList) : ofKey? key = none := by
  rw [ofKey?, span_of_notMem h]

/-- Reading a key that is cut at its first dot. -/
theorem ofKey?_of_split {key : String} {before after : List Char}
    (hkey : key.toList = before ++ '.' :: after) (hbefore : '.' ∉ before) :
    ofKey? key = some
      (if before.isEmpty || !Text.isIdentifier (String.ofList after) then
        .error (.malformedRelationship key)
      else .ok ⟨String.ofList before, String.ofList after⟩) := by
  rw [ofKey?, hkey, span_dot hbefore]

theorem ofKey?_eq_none_iff {key : String} : ofKey? key = none ↔ '.' ∉ key.toList := by
  constructor
  · intro hnone hdot
    obtain ⟨before, after, hkey, hbefore⟩ := List.eq_append_cons_of_mem hdot
    rw [ofKey?_of_split hkey hbefore] at hnone
    contradiction
  · exact ofKey?_of_notMem

/-- A key names a target exactly if it is the dotted name of the target, whose package is neither
empty nor dotted and whose model is an identifier. -/
theorem ofKey?_eq_ok_iff {key : String} {target : ModelName} :
    ofKey? key = some (.ok target) ↔
      key = target.qualified ∧ target.package ≠ "" ∧ '.' ∉ target.package.toList ∧
        Text.isIdentifier target.model = true := by
  constructor
  · intro hok
    have hdot : '.' ∈ key.toList := by
      by_contra h
      rw [ofKey?_of_notMem h] at hok
      contradiction
    obtain ⟨before, after, hkey, hbefore⟩ := List.eq_append_cons_of_mem hdot
    rw [ofKey?_of_split hkey hbefore] at hok
    split at hok
    · simp at hok
    · next hform =>
      -- the checks that were passed are the conditions on the two parts
      simp only [Option.some.injEq, Except.ok.injEq] at hok
      subst hok
      simp only [Bool.or_eq_true, not_or, List.isEmpty_iff, Bool.not_eq_true',
        Bool.not_eq_false] at hform
      refine ⟨?_, ?_, ?_, hform.2⟩
      · rw [← String.toList_inj, toList_qualified, hkey, String.toList_ofList,
          String.toList_ofList]
      · intro hempty
        apply hform.1
        rw [← String.toList_inj, String.toList_ofList] at hempty
        simpa using hempty
      · rwa [String.toList_ofList]
  · intro h
    obtain ⟨rfl, hpackage, hnodot, hmodel⟩ := h
    have hne : target.package.toList ≠ [] := by
      intro hempty
      apply hpackage
      rw [← String.toList_inj, hempty]
      rfl
    rw [ofKey?_of_split (toList_qualified target) hnodot, String.ofList_toList,
      String.ofList_toList, hmodel]
    simp [List.isEmpty_iff, hne]

end SheetSchema.ModelName
