import Mathlib
import SheetSchema.Text.Identifier
import SheetSchema.Text.SnakeCase

/-!
# Words of an identifier

A capital starts a word of an identifier after a lower-case letter, and after another capital if a
lower-case letter follows it; digits do not count. With an underscore put before every such capital,
the words are what stands between underscores. The snake case of an identifier joins its lower-case
words and keeps them apart, so two identifiers share it exactly if they have the same words but for
case.
-/

namespace SheetSchema.Text

/-! ## Characters of identifiers -/

section Characters

variable {c : Char}

/-- Letters and digits of identifiers are ASCII. -/
theorem toNat_lt_of_isAlphanum (h : c.isAlphanum = true) : c.toNat < 128 := by
  simp only [Char.isAlphanum, Char.isAlpha, Char.isUpper, Char.isLower, Char.isDigit,
    Bool.or_eq_true, Bool.and_eq_true, decide_eq_true_eq, ge_iff_le, UInt32.le_iff_toNat_le] at h
  have hc : c.toNat = c.val.toNat := rfl
  have hZ : 'Z'.val.toNat = 90 := rfl
  have hz : 'z'.val.toNat = 122 := rfl
  have h9 : '9'.val.toNat = 57 := rfl
  omega

/-- A fact about letters and digits can be checked for the characters of ASCII one by one. -/
theorem of_isAlphanum {p : Char → Prop}
    (checked : ∀ n < 128, (Char.ofNat n).isAlphanum = true → p (Char.ofNat n))
    (h : c.isAlphanum = true) : p c := by
  have hcheck := checked c.toNat (toNat_lt_of_isAlphanum h)
  rw [Char.ofNat_toNat] at hcheck
  exact hcheck h

theorem isAlphanum_toLower (h : c.isAlphanum = true) : c.toLower.isAlphanum = true :=
  of_isAlphanum (p := fun c => c.toLower.isAlphanum = true) (by decide) h

/-- No letter of an identifier has both cases. -/
theorem isLowercase_eq_false (h : c.isAlphanum = true) (upper : isUppercase c = true) :
    isLowercase c = false :=
  of_isAlphanum (p := fun c => isUppercase c = true → isLowercase c = false) (by decide) h upper

/-- An ASCII character has a single lower-case form. -/
theorem lowerChar_eq (h : c.isAlphanum = true) : lowerChar c = [c.toLower] := by
  rw [lowerChar, if_pos (toNat_lt_of_isAlphanum h)]

theorem isAlphanumeric_of_isAlphanum (h : c.isAlphanum = true) : isAlphanumeric c = true := by
  rw [isAlphanumeric, if_pos (toNat_lt_of_isAlphanum h), h]

theorem ne_underscore (h : c.isAlphanum = true) : c ≠ '_' := by
  rintro rfl
  exact absurd h (by decide)

/-- An identifier is made of ASCII letters, digits and underscores. -/
theorem isAlphanum_or_eq_of_isIdentifier {text : String} (identifier : isIdentifier text = true) :
    ∀ c ∈ text.toList, c.isAlphanum = true ∨ c = '_' := by
  unfold isIdentifier at identifier
  intro c hc
  cases hchars : text.toList with
  | nil => simp [hchars] at hc
  | cons first rest =>
    rw [hchars] at identifier hc
    rw [Bool.and_eq_true, List.all_eq_true] at identifier
    obtain ⟨hstart, hrest⟩ := identifier
    rcases List.mem_cons.1 hc with rfl | hmem
    · simp only [isIdentifierStart, Bool.or_eq_true, beq_iff_eq] at hstart
      rcases hstart with halpha | hunderscore
      · exact .inl (by simp [Char.isAlphanum, halpha])
      · exact .inr hunderscore
    · simpa [isIdentifierRest] using hrest c hmem

end Characters

/-! ## Between underscores -/

/-- What stands between underscores, without the empty pieces. -/
def pieces (chars : List Char) : List (List Char) :=
  (chars.splitOn '_').filter fun piece => !piece.isEmpty

/-- Pieces on both sides of an underscore are apart. -/
theorem pieces_append_cons (before after : List Char) :
    pieces (before ++ '_' :: after) = pieces before ++ pieces after := by
  unfold pieces List.splitOn
  rw [List.splitOnP_append_cons before after (by rfl), List.filter_append]

/-- A text without an underscore is one piece. -/
theorem pieces_of_notMem {piece : List Char} (whole : '_' ∉ piece) (full : piece ≠ []) :
    pieces piece = [piece] := by
  rw [pieces, List.splitOn_eq_singleton whole, List.filter_cons_of_pos (by simpa using full),
    List.filter_nil]

/-- Cutting at underscores undoes joining by them. -/
theorem pieces_intercalate {words : List (List Char)}
    (whole : ∀ word ∈ words, word ≠ [] ∧ '_' ∉ word) :
    pieces (['_'].intercalate words) = words := by
  cases words with
  | nil => rfl
  | cons word words =>
    rw [pieces, List.splitOn_intercalate '_' (fun word hword => (whole word hword).2)
      (List.cons_ne_nil _ _), List.filter_eq_self]
    intro word hword
    simpa [List.isEmpty_iff] using (whole word hword).1

/-- The characters of the pieces are those of the text, but for the underscores. -/
theorem flatten_pieces (chars : List Char) :
    (pieces chars).flatten = chars.filter (· != '_') := by
  rw [pieces, List.flatten_filter_not_isEmpty]
  induction chars with
  | nil => rfl
  | cons c rest ih =>
    rw [List.splitOn, List.splitOnP_cons_eq_if_modifyHead]
    by_cases hc : c = '_'
    · rw [if_pos (by simp [hc]), List.flatten_cons, List.nil_append, List.filter_cons_of_neg
        (by simp [hc])]
      exact ih
    · obtain ⟨piece, others, hsplit⟩ :=
        List.exists_cons_of_ne_nil (List.splitOnP_ne_nil (· == '_') rest)
      rw [List.splitOn, hsplit, List.flatten_cons] at ih
      rw [if_neg (by simp [hc]), hsplit, List.modifyHead_cons, List.flatten_cons, List.cons_append,
        ih, List.filter_cons_of_pos (by simp [hc])]

theorem ne_nil_of_mem_pieces {chars piece : List Char} (h : piece ∈ pieces chars) :
    piece ≠ [] := by
  simpa [List.isEmpty_iff] using (List.mem_filter.1 h).2

/-! ## Words -/

/-- Whether a character starts a word, after letters of case `last` and before `rest`. -/
def startsWord (last : WordCase) (c : Char) (rest : List Char) : Bool :=
  isUppercase c && (last == .lower || last == .upper && rest.head?.any isLowercase)

/-- The characters with an underscore before each that starts a word, after letters of case `last`
since the last underscore. -/
def marked (last : WordCase) : List Char → List Char
  | [] => []
  | c :: rest =>
    if c = '_' then '_' :: marked .unknown rest
    else if startsWord last c rest then '_' :: c :: marked (last.next c) rest
    else c :: marked (last.next c) rest

/-- Words of an identifier in lower case. -/
def words (name : String) : List (List Char) :=
  (pieces (marked .unknown name.toList)).map fun word => word.map Char.toLower

section Marks

variable {last : WordCase} {c : Char} {rest : List Char}

/-- An underscore is kept as a mark and starts over. -/
theorem marked_underscore : marked last ('_' :: rest) = '_' :: marked .unknown rest := by
  rw [marked, if_pos rfl]

/-- A character that starts a word gets a mark in front. -/
theorem marked_cons_of_starts (hc : c ≠ '_') (starts : startsWord last c rest = true) :
    marked last (c :: rest) = '_' :: c :: marked (last.next c) rest := by
  rw [marked, if_neg hc, if_pos starts]

/-- Any other goes on with the word it stands in. -/
theorem marked_cons_of_not_starts (hc : c ≠ '_') (stays : startsWord last c rest = false) :
    marked last (c :: rest) = c :: marked (last.next c) rest := by
  rw [marked, if_neg hc, if_neg (by simp [stays])]

/-- Marking only adds underscores. -/
theorem filter_marked (chars : List Char) :
    (marked last chars).filter (· != '_') = chars.filter (· != '_') := by
  induction chars generalizing last with
  | nil => rfl
  | cons c rest ih =>
    by_cases hc : c = '_'
    · simp [hc, marked_underscore, ih]
    · by_cases hstarts : startsWord last c rest = true
      · simp [marked_cons_of_starts hc hstarts, hc, ih]
      · simp [marked_cons_of_not_starts hc (by simpa using hstarts), hc, ih]

/-- Marks look no further than the next underscore. -/
theorem marked_append_cons {run : List Char} (plain : '_' ∉ run) (rest : List Char) :
    marked last (run ++ '_' :: rest) = marked last run ++ '_' :: marked .unknown rest := by
  induction run generalizing last with
  | nil => exact marked_underscore
  | cons c run ih =>
    rw [List.mem_cons, not_or] at plain
    have hc : c ≠ '_' := fun same => plain.1 same.symm
    have hnext : startsWord last c (run ++ '_' :: rest) = startsWord last c run := by
      cases run with
      | nil => simp [startsWord, show isLowercase '_' = false by decide]
      | cons d run => rfl
    by_cases hstarts : startsWord last c run = true
    · rw [List.cons_append, marked_cons_of_starts hc (hnext.trans hstarts), ih plain.2,
        marked_cons_of_starts hc hstarts]
      rfl
    · rw [Bool.not_eq_true] at hstarts
      rw [List.cons_append, marked_cons_of_not_starts hc (hnext.trans hstarts), ih plain.2,
        marked_cons_of_not_starts hc hstarts]
      rfl

/-- A lower-case letter starts no word, so only its own case counts from there on. -/
theorem marked_cons_of_isLowercase (hc : c.isAlphanum = true) (lower : isLowercase c = true) :
    marked last (c :: rest) = c :: marked .lower rest := by
  have hupper : isUppercase c = false := by
    refine Bool.eq_false_iff.2 fun upper => ?_
    rw [isLowercase_eq_false hc upper] at lower
    contradiction
  rw [marked_cons_of_not_starts (ne_underscore hc) (by simp [startsWord, hupper]),
    WordCase.next, if_pos lower]

/-- After a lower-case letter a capital starts a word. -/
theorem marked_lower_of_isUppercase (hc : c.isAlphanum = true) (upper : isUppercase c = true) :
    marked .lower (c :: rest) = '_' :: marked .unknown (c :: rest) := by
  have hnext : ∀ case : WordCase, case.next c = .upper := by
    intro case
    simp [WordCase.next, isLowercase_eq_false hc upper, upper]
  have hne := ne_underscore hc
  rw [marked_cons_of_starts hne (by simp [startsWord, upper]),
    marked_cons_of_not_starts hne (by simp [startsWord]), hnext, hnext]

/-- A capital would have made the case upper. -/
theorem isUppercase_eq_false_of_next (hc : c.isAlphanum = true) (next : last.next c = .lower) :
    isUppercase c = false := by
  refine Bool.eq_false_iff.2 fun upper => ?_
  simp [WordCase.next, isLowercase_eq_false hc upper, upper] at next

/-- A capital that follows no lower-case letter starts no word, unless it stands between a capital
and a lower-case letter. -/
theorem startsWord_eq_false (settled : last = .lower → isUppercase c = false)
    (inside : ¬ (last = .upper ∧ isUppercase c = true ∧ rest.head?.any isLowercase = true)) :
    startsWord last c rest = false := by
  refine Bool.eq_false_iff.2 fun starts => ?_
  simp only [startsWord, Bool.and_eq_true, Bool.or_eq_true, beq_iff_eq] at starts
  obtain ⟨hupper, hlast | ⟨hlast, hlower⟩⟩ := starts
  · rw [settled hlast] at hupper
    contradiction
  · exact inside ⟨hlast, hupper, hlower⟩

end Marks

/-! ## Cutting a run into words -/

/-- Cutting a run goes on with the current word and the marks of what is left. The word has a
character where the last letter was a capital, so a cut before the next capital leaves no empty
word, and a lower-case letter was cut off before a capital. -/
theorem splitRun_eq {last : WordCase} {word run : List Char}
    (plain : ∀ c ∈ run, c.isAlphanum = true) (whole : '_' ∉ word)
    (opened : last = .upper → word ≠ [])
    (settled : last = .lower → ∀ c ∈ run.head?, isUppercase c = false) :
    splitRun last word run = pieces (word.reverse ++ marked last run) := by
  induction last, word, run using splitRun.induct with
  | case1 last word hempty =>
    rw [splitRun, if_pos hempty, List.isEmpty_iff.1 hempty]
    rfl
  | case2 last word hfull =>
    rw [splitRun, if_neg hfull, marked, List.append_nil,
      pieces_of_notMem (by simpa using whole) (by simpa using hfull)]
  | case3 last word c =>
    have hc : c.isAlphanum = true := plain c (by simp)
    have hne : c ≠ '_' := ne_underscore hc
    have hstays : startsWord last c [] = false :=
      startsWord_eq_false (fun hlast => settled hlast c (by simp)) (by simp)
    rw [splitRun, marked_cons_of_not_starts hne hstays, marked, ← List.reverse_cons,
      pieces_of_notMem (by simp [hne.symm, whole]) (by simp)]
  | case4 last word c c' rest hcut ih =>
    have hc : c.isAlphanum = true := plain c (by simp)
    have hc' : c'.isAlphanum = true := plain c' (by simp)
    have hne : c ≠ '_' := ne_underscore hc
    -- cut after `c`, which is no capital, so the word goes on until there
    have hupper := isUppercase_eq_false_of_next hc hcut.1
    have hrest := ih (fun d hd => plain d (List.mem_cons_of_mem c hd)) (by simp) (by simp) (by simp)
    have hword : pieces (c :: word).reverse = [(c :: word).reverse] :=
      pieces_of_notMem (by simp [hne.symm, whole]) (by simp)
    rw [splitRun, if_pos hcut, hrest, marked_cons_of_not_starts hne (by simp [startsWord, hupper]),
      hcut.1, marked_lower_of_isUppercase hc' hcut.2, List.append_cons, ← List.reverse_cons,
      pieces_append_cons, hword]
    rfl
  | case5 last word c c' rest hnot hcut ih =>
    -- cut before `c`, whose case is forgotten: `c'` is lower-case and sets its own
    obtain ⟨rfl, hupper, hlower⟩ := hcut
    have hc : c.isAlphanum = true := plain c (by simp)
    have hc' : c'.isAlphanum = true := plain c' (by simp)
    have hne : c ≠ '_' := ne_underscore hc
    have hrest := ih (fun d hd => plain d (List.mem_cons_of_mem c hd)) (by simp [hne.symm])
      (by simp) (by simp)
    have hword : pieces word.reverse = [word.reverse] :=
      pieces_of_notMem (by simpa using whole) (by simpa using opened rfl)
    rw [splitRun, if_neg hnot, if_pos ⟨rfl, hupper, hlower⟩, hrest,
      marked_cons_of_starts hne (by simp [startsWord, hupper, hlower]), pieces_append_cons, hword,
      marked_cons_of_isLowercase hc' hlower, marked_cons_of_isLowercase hc' hlower]
    rfl
  | case6 last word c c' rest hnot hnot' ih =>
    have hc : c.isAlphanum = true := plain c (by simp)
    have hne : c ≠ '_' := ne_underscore hc
    -- no cut, so `c` starts no word: neither kind of start passed its check
    have hstays : startsWord last c (c' :: rest) = false :=
      startsWord_eq_false (fun hlast => settled hlast c (by simp)) hnot'
    have hrest := ih (fun d hd => plain d (List.mem_cons_of_mem c hd)) (by simp [hne.symm, whole])
      (by simp) (fun hnext d hd => by
        simp only [List.head?_cons, Option.mem_some] at hd
        exact Bool.eq_false_iff.2 fun upper => hnot ⟨hnext, hd ▸ upper⟩)
    rw [splitRun, if_neg hnot, if_neg hnot', hrest, marked_cons_of_not_starts hne hstays,
      List.append_cons, ← List.reverse_cons]

/-- The words of an identifier are what stands between underscores once words are marked. -/
theorem flatMap_splitRun {run rest : List Char} (plain : ∀ c ∈ run, c.isAlphanum = true)
    (ascii : ∀ c ∈ rest, c.isAlphanum = true ∨ c = '_') :
    (alphanumericParts run rest).flatMap (splitRun .unknown []) =
      pieces (marked .unknown (run.reverse ++ rest)) := by
  induction rest generalizing run with
  | nil =>
    rw [alphanumericParts, List.flatMap_singleton, List.append_nil,
      splitRun_eq (by simpa using plain) (by simp) (by simp) (by simp)]
    rfl
  | cons c rest ih =>
    have hrest : ∀ d ∈ rest, d.isAlphanum = true ∨ d = '_' :=
      fun d hd => ascii d (List.mem_cons_of_mem c hd)
    rcases ascii c (by simp) with hc | rfl
    · have hrun : ∀ d ∈ c :: run, d.isAlphanum = true := by
        intro d hd
        rcases List.mem_cons.1 hd with rfl | hd
        · exact hc
        · exact plain d hd
      rw [alphanumericParts, if_pos (isAlphanumeric_of_isAlphanum hc), ih hrun hrest,
        List.append_cons, ← List.reverse_cons]
    · -- the run ends here, and what is marked after an underscore is marked afresh
      have hwhole : '_' ∉ run.reverse := by
        intro hmem
        exact ne_underscore (plain '_' (List.mem_reverse.1 hmem)) rfl
      have hrun : splitRun .unknown [] run.reverse = pieces (marked .unknown run.reverse) :=
        splitRun_eq (by simpa using plain) (by simp) (by simp) (by simp)
      rw [alphanumericParts, if_neg (by decide), List.flatMap_cons, ih (by simp) hrest, hrun,
        marked_append_cons hwhole, pieces_append_cons]
      rfl

/-- In an identifier words are cut by underscores and marks alone. -/
theorem snakeWords_eq {name : String} (identifier : isIdentifier name = true) :
    snakeWords name.toList = pieces (marked .unknown name.toList) :=
  flatMap_splitRun (by simp) (isAlphanum_or_eq_of_isIdentifier identifier)

/-! ## Snake case of an identifier -/

section SnakeCase

variable {name : String}

/-- The letters and digits of an identifier, in order, make up its words. -/
theorem flatten_snakeWords (identifier : isIdentifier name = true) :
    (snakeWords name.toList).flatten = name.toList.filter (· != '_') := by
  rw [snakeWords_eq identifier, flatten_pieces, filter_marked]

/-- Words hold letters and digits, as underscores separate them. -/
theorem isAlphanum_of_mem_snakeWords (identifier : isIdentifier name = true) {word : List Char}
    (h : word ∈ snakeWords name.toList) : ∀ c ∈ word, c.isAlphanum = true := by
  intro c hc
  have hflat := List.mem_flatten_of_mem h hc
  rw [flatten_snakeWords identifier, List.mem_filter] at hflat
  obtain ⟨hmem, hne⟩ := hflat
  exact (isAlphanum_or_eq_of_isIdentifier identifier c hmem).resolve_right (by simpa using hne)

/-- Within ASCII a word is lowered letter by letter. -/
theorem lowerWord_eq {word : List Char} (plain : ∀ c ∈ word, c.isAlphanum = true) :
    lowerWord word = word.map Char.toLower := by
  induction word using lowerWord.induct with
  | case1 => rfl
  | case2 => exact absurd (plain 'Σ' (by simp)) (by decide)
  | case3 c hsigma =>
    rw [lowerWord, if_neg hsigma, lowerChar_eq (plain c (by simp))]
    rfl
  | case4 c rest hne ih =>
    rw [lowerWord, lowerChar_eq (plain c (by simp)),
      ih fun d hd => plain d (List.mem_cons_of_mem c hd)]
    · rfl
    · exact hne

/-- The snake case of an identifier is its words, joined by underscores. -/
theorem toList_snakeCase (identifier : isIdentifier name = true) :
    (snakeCase name).toList = ['_'].intercalate (words name) := by
  have hlower : (snakeWords name.toList).map lowerWord = words name := by
    rw [words, ← snakeWords_eq identifier]
    exact List.map_congr_left fun word hword =>
      lowerWord_eq (isAlphanum_of_mem_snakeWords identifier hword)
  rw [snakeCase, String.toList_intercalate, List.map_map, ← hlower]
  congr 1
  refine List.map_congr_left fun word _ => ?_
  exact String.toList_ofList

example : snakeCase "HTTPServer2Go" = "http_server2_go" := by decide +kernel

/-- Words have characters, all of them letters and digits. -/
theorem words_plain (identifier : isIdentifier name = true) {word : List Char}
    (h : word ∈ words name) : word ≠ [] ∧ ∀ c ∈ word, c.isAlphanum = true := by
  obtain ⟨piece, hpiece, rfl⟩ := List.mem_map.1 h
  refine ⟨by simpa using ne_nil_of_mem_pieces hpiece, ?_⟩
  intro c hc
  obtain ⟨d, hd, rfl⟩ := List.mem_map.1 hc
  rw [← snakeWords_eq identifier] at hpiece
  exact isAlphanum_toLower (isAlphanum_of_mem_snakeWords identifier hpiece d hd)

/-- The words of a name can be read off its snake case again. -/
theorem pieces_snakeCase (identifier : isIdentifier name = true) :
    pieces (snakeCase name).toList = words name := by
  rw [toList_snakeCase identifier]
  refine pieces_intercalate fun word hword => ⟨(words_plain identifier hword).1, ?_⟩
  intro hmem
  exact ne_underscore ((words_plain identifier hword).2 '_' hmem) rfl

/-- Identifiers share their snake case exactly if they have the same words. -/
theorem snakeCase_eq_iff {other : String} (identifier : isIdentifier name = true)
    (identifier' : isIdentifier other = true) :
    snakeCase name = snakeCase other ↔ words name = words other := by
  constructor
  · intro same
    rw [← pieces_snakeCase identifier, ← pieces_snakeCase identifier', same]
  · intro same
    rw [← String.toList_inj, toList_snakeCase identifier, toList_snakeCase identifier', same]

/-- The snake case of an identifier is empty exactly if it consists of underscores. -/
theorem snakeCase_eq_empty_iff (identifier : isIdentifier name = true) :
    snakeCase name = "" ↔ ∀ c ∈ name.toList, c = '_' := by
  have hflat : (words name).flatten = (name.toList.filter (· != '_')).map Char.toLower := by
    rw [words, ← List.map_flatten, flatten_pieces, filter_marked]
  have hunderscores : (words name).flatten = [] ↔ ∀ c ∈ name.toList, c = '_' := by
    rw [hflat, List.map_eq_nil_iff, List.filter_eq_nil_iff]
    simp
  rw [← hunderscores]
  constructor
  · intro hempty
    rw [← pieces_snakeCase identifier, hempty]
    rfl
  · intro hnil
    -- a word would have characters
    have hwords : words name = [] := by
      refine List.eq_nil_iff_forall_not_mem.2 fun word hword => ?_
      exact (words_plain identifier hword).1 (List.flatten_eq_nil_iff.1 hnil word hword)
    rw [← String.toList_inj, toList_snakeCase identifier, hwords]
    rfl

/-- The snake case of an identifier has letters, digits and underscores only. -/
theorem mem_snakeCase (identifier : isIdentifier name = true) :
    ∀ c ∈ (snakeCase name).toList, c.isAlphanum = true ∨ c = '_' := by
  intro c hc
  by_cases hne : c = '_'
  · exact .inr hne
  · have hflat : c ∈ (pieces (snakeCase name).toList).flatten := by
      rw [flatten_pieces, List.mem_filter]
      exact ⟨hc, by simpa using hne⟩
    rw [pieces_snakeCase identifier] at hflat
    obtain ⟨word, hword, hmem⟩ := List.mem_flatten.1 hflat
    exact .inl ((words_plain identifier hword).2 c hmem)

end SnakeCase

end SheetSchema.Text
