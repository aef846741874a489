import Mathlib.Data.List.Basic
import SheetSchema.Files.Path

/-!
# Paths in a directory

The path of a plain name in a directory has that name for its last part, and the parts before it
are the same for all plain names.
-/

namespace SheetSchema.Path

/-! ## Splitting -/

theorem splitSlash_ne_nil (chars : List Char) : splitSlash chars ≠ [] := by
  cases chars with
  | nil => simp [splitSlash]
  | cons c rest =>
    rw [splitSlash]
    split
    · simp
    · split <;> simp

/-- A text without a slash is one part. -/
theorem splitSlash_of_notMem {chars : List Char} (noSlash : '/' ∉ chars) :
    splitSlash chars = [chars] := by
  induction chars with
  | nil => rfl
  | cons c rest ih =>
    obtain ⟨hne, hrest⟩ := not_or.1 (mt List.mem_cons.2 noSlash)
    have hdiffers : (c == '/') = false := by simpa using Ne.symm hne
    rw [splitSlash, hdiffers, ih hrest]
    simp

/-- Splitting at one of the slashes. -/
theorem splitSlash_append_cons (before after : List Char) :
    splitSlash (before ++ '/' :: after) = splitSlash before ++ splitSlash after := by
  induction before with
  | nil => simp [splitSlash]
  | cons c rest ih =>
    rw [List.cons_append, splitSlash, splitSlash, ih]
    by_cases hslash : c == '/'
    · simp [hslash]
    · cases hparts : splitSlash rest with
      | nil => exact absurd hparts (splitSlash_ne_nil rest)
      | cons part parts => simp [hslash]

/-! ## Plain names -/

/-- A name that leads to an entry of the directory that it is looked up in. -/
structure IsPlain (name : String) : Prop where
  noSlash : '/' ∉ name.toList
  ne_empty : name ≠ ""
  ne_here : name ≠ "."
  ne_up : name ≠ ".."

instance (name : String) : Decidable (IsPlain name) :=
  decidable_of_iff ('/' ∉ name.toList ∧ name ≠ "" ∧ name ≠ "." ∧ name ≠ "..")
    ⟨fun ⟨noSlash, ne_empty, ne_here, ne_up⟩ => ⟨noSlash, ne_empty, ne_here, ne_up⟩,
      fun plain => ⟨plain.noSlash, plain.ne_empty, plain.ne_here, plain.ne_up⟩⟩

variable {name : String}

theorem IsPlain.isAbsolute (plain : IsPlain name) : isAbsolute name = false := by
  unfold Path.isAbsolute
  cases hchars : name.toList with
  | nil => rfl
  | cons c rest =>
    have hne : c ≠ '/' := fun same => plain.noSlash (by simp [hchars, same])
    simpa using hne

/-- Parts of the path of a name in a directory, but for the name. -/
def folderParts (directory : String) : List String :=
  if directory.isEmpty then []
  else if directory.toList.getLast? == some '/' then (parts directory).dropLast
  else parts directory

/-- A path has an empty part after those of its directory at most. -/
theorem parts_eq_folderParts (directory : String) :
    parts directory = folderParts directory ∨ parts directory = folderParts directory ++ [""] := by
  unfold folderParts
  by_cases hempty : directory.isEmpty
  · have htext : directory = "" := by simpa using hempty
    subst htext
    exact Or.inr rfl
  · rw [if_neg hempty]
    by_cases hlast : directory.toList.getLast? = some '/'
    · obtain ⟨before, hbefore⟩ := List.getLast?_eq_some_iff.1 hlast
      have hparts : parts directory = (splitSlash before).map String.ofList ++ [""] := by
        rw [parts, hbefore, splitSlash_append_cons, List.map_append]
        rfl
      refine Or.inr ?_
      rw [if_pos (by simpa using hlast), hparts, List.dropLast_concat]
    · exact Or.inl (by rw [if_neg (by simpa using hlast)])

theorem toList_join (plain : IsPlain name) (directory : String) :
    (join directory name).toList =
      if directory.isEmpty || directory.toList.getLast? == some '/' then
        directory.toList ++ name.toList
      else directory.toList ++ '/' :: name.toList := by
  unfold join
  rw [plain.isAbsolute, Bool.false_or, if_neg Bool.false_ne_true]
  split
  · rw [String.toList_append]
  · simp [String.toList_append]

theorem parts_join (plain : IsPlain name) (directory : String) :
    parts (join directory name) = folderParts directory ++ [name] := by
  have hname : splitSlash name.toList = [name.toList] := splitSlash_of_notMem plain.noSlash
  unfold folderParts parts
  rw [toList_join plain]
  by_cases hempty : directory.isEmpty
  · have htext : directory = "" := by simpa using hempty
    simp [htext, hname]
  · by_cases hlast : directory.toList.getLast? = some '/'
    · obtain ⟨before, hbefore⟩ := List.getLast?_eq_some_iff.1 hlast
      have hparts : splitSlash directory.toList = splitSlash before ++ [[]] := by
        rw [hbefore, splitSlash_append_cons]
        rfl
      have hjoined : splitSlash (directory.toList ++ name.toList) =
          splitSlash before ++ [name.toList] := by
        rw [hbefore, List.append_assoc, List.singleton_append, splitSlash_append_cons, hname]
      simp [hempty, hlast, hjoined, hparts]
    · have hjoined : splitSlash (directory.toList ++ '/' :: name.toList) =
          splitSlash directory.toList ++ [name.toList] := by
        rw [splitSlash_append_cons, hname]
      simp [hempty, hlast, hjoined]

theorem isAbsolute_join (plain : IsPlain name) (directory : String) :
    isAbsolute (join directory name) = isAbsolute directory := by
  have hname := plain.isAbsolute
  unfold isAbsolute at hname ⊢
  rw [toList_join plain]
  cases hchars : directory.toList with
  | nil =>
    have htext : directory = "" := by simpa using hchars
    simpa [htext] using hname
  | cons c rest => split <;> simp

theorem join_ne_empty (plain : IsPlain name) (directory : String) : join directory name ≠ "" := by
  intro hempty
  have hparts := parts_join plain directory
  rw [hempty] at hparts
  have hlast : "" = name := by
    simpa [parts, splitSlash] using congrArg List.getLast? hparts
  exact plain.ne_empty hlast.symm

end SheetSchema.Path
