import Mathlib.Data.List.DropRight
import Mathlib.Data.List.TakeWhile
import SheetSchema.Text.Blank

/-!
# Trimming

Dropping characters from an end of a text stops at the first one that is to be kept: what is left
begins or ends with that one. So a text is left alone exactly if it does not begin or end with a
character to be dropped.
-/

namespace SheetSchema.Text

variable {test : Char → Bool} {chars : List Char} {c : Char}

/-! ## One end -/

theorem dropWhile_append_cons {dropped rest : List Char} (kept : test c = false)
    (all : ∀ other ∈ dropped, test other = true) :
    (dropped ++ c :: rest).dropWhile test = c :: rest := by
  rw [List.dropWhile_append_of_pos all, List.dropWhile_cons_of_neg (by simp [kept])]

/-- What is left begins with the first character that is kept. -/
theorem head?_dropWhile_eq_some_iff :
    (chars.dropWhile test).head? = some c ↔
      ∃ dropped rest, chars = dropped ++ c :: rest ∧ test c = false ∧
        ∀ other ∈ dropped, test other = true := by
  constructor
  · intro hhead
    obtain ⟨rest, hrest⟩ := List.head?_eq_some_iff.1 hhead
    refine ⟨chars.takeWhile test, rest, ?_, ?_, fun other => List.mem_takeWhile_imp⟩
    · rw [← hrest, List.takeWhile_append_dropWhile]
    · have hkept := List.head?_dropWhile_not test chars
      rwa [hhead] at hkept
  · intro h
    obtain ⟨dropped, rest, rfl, hkept, hall⟩ := h
    rw [dropWhile_append_cons hkept hall, List.head?_cons]

/-- What is first after dropping was not to be dropped. -/
theorem kept_of_head?_dropWhile (first : (chars.dropWhile test).head? = some c) :
    test c = false := by
  obtain ⟨-, -, -, hkept, -⟩ := head?_dropWhile_eq_some_iff.1 first
  exact hkept

/-- What is left ends with the last character that is kept. -/
theorem getLast?_dropEndWhile_eq_some_iff :
    (dropEndWhile test chars).getLast? = some c ↔
      ∃ front dropped, chars = front ++ c :: dropped ∧ test c = false ∧
        ∀ other ∈ dropped, test other = true := by
  rw [dropEndWhile, List.getLast?_reverse, head?_dropWhile_eq_some_iff]
  constructor
  · intro h
    obtain ⟨dropped, rest, hchars, hkept, hall⟩ := h
    refine ⟨rest.reverse, dropped.reverse, ?_, hkept, fun other h => hall other (by simpa using h)⟩
    rw [← List.reverse_reverse chars, hchars]
    simp
  · intro h
    obtain ⟨front, dropped, rfl, hkept, hall⟩ := h
    exact ⟨dropped.reverse, front.reverse, by simp, hkept,
      fun other h => hall other (by simpa using h)⟩

/-- What is last after dropping from the end was not to be dropped. -/
theorem kept_of_getLast?_dropEndWhile (last : (dropEndWhile test chars).getLast? = some c) :
    test c = false := by
  obtain ⟨-, -, -, hkept, -⟩ := getLast?_dropEndWhile_eq_some_iff.1 last
  exact hkept

theorem isPrefix_dropEndWhile (test : Char → Bool) (chars : List Char) :
    dropEndWhile test chars <+: chars := List.rdropWhile_prefix test chars

/-- What is left behind a shortened end begins as before. -/
theorem head?_of_head?_dropEndWhile (first : (dropEndWhile test chars).head? = some c) :
    chars.head? = some c := by
  obtain ⟨dropped, hchars⟩ := isPrefix_dropEndWhile test chars
  obtain ⟨rest, hleft⟩ := List.head?_eq_some_iff.1 first
  rw [← hchars, hleft, List.cons_append, List.head?_cons]

/-- The first character stays if it is to be kept, whatever is dropped behind it. -/
theorem head?_dropEndWhile (first : chars.head? = some c) (kept : test c = false) :
    (dropEndWhile test chars).head? = some c := by
  cases hleft : dropEndWhile test chars with
  | nil =>
    have hall := List.rdropWhile_eq_nil_iff.1 hleft c (List.mem_of_mem_head? first)
    exact absurd hall (Bool.eq_false_iff.1 kept)
  | cons other rest =>
    have hother : chars.head? = some other := head?_of_head?_dropEndWhile (by rw [hleft]; rfl)
    rw [List.head?_cons, ← hother, first]

theorem dropWhile_eq_self (kept : ∀ c, chars.head? = some c → test c = false) :
    chars.dropWhile test = chars := by
  cases chars with
  | nil => rfl
  | cons first rest => exact List.dropWhile_cons_of_neg (by simp [kept first rfl])

theorem dropEndWhile_eq_self (kept : ∀ c, chars.getLast? = some c → test c = false) :
    dropEndWhile test chars = chars := by
  rw [dropEndWhile, dropWhile_eq_self, List.reverse_reverse]
  intro c hlast
  exact kept c (by rwa [List.head?_reverse] at hlast)

/-! ## Both ends -/

/-- Trimming takes characters away and adds none. -/
theorem trimChars_sublist (chars : List Char) : (trimChars chars).Sublist chars :=
  (isPrefix_dropEndWhile _ _).sublist.trans (List.dropWhile_sublist _)

/-- A trimmed text does not begin with a blank. -/
theorem not_isBlank_of_head?_trimChars (first : (trimChars chars).head? = some c) :
    isBlank c = false :=
  kept_of_head?_dropWhile (head?_of_head?_dropEndWhile first)

/-- A trimmed text does not end with a blank. -/
theorem not_isBlank_of_getLast?_trimChars (last : (trimChars chars).getLast? = some c) :
    isBlank c = false :=
  kept_of_getLast?_dropEndWhile last

/-- Exactly a text without blanks at its ends is left alone. -/
theorem trimChars_eq_self_iff :
    trimChars chars = chars ↔ (∀ c, chars.head? = some c → isBlank c = false) ∧
      ∀ c, chars.getLast? = some c → isBlank c = false := by
  constructor
  · intro hself
    rw [← hself]
    exact ⟨fun _ => not_isBlank_of_head?_trimChars, fun _ => not_isBlank_of_getLast?_trimChars⟩
  · intro h
    rw [trimChars, dropWhile_eq_self h.1, dropEndWhile_eq_self h.2]

theorem trim_of_not_blank {text : String} (solid : ∀ c ∈ text.toList, isBlank c = false) :
    trim text = text := by
  have hself : trimChars text.toList = text.toList :=
    trimChars_eq_self_iff.2 ⟨fun c hfirst => solid c (List.mem_of_mem_head? hfirst),
      fun c hlast => solid c (List.mem_of_mem_getLast? hlast)⟩
  rw [trim, hself, String.ofList_toList]

end SheetSchema.Text
