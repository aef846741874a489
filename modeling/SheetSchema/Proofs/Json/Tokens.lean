import SheetSchema.Json.Printer
import SheetSchema.Proofs.Number.Numeral

/-!
# Tokens of printed trees

A printed tree is cut into the tokens that its shape gives. Every string is one token, with all of
its characters; every number is one token, as what follows it never goes on with it; and the blanks
between them are skipped.
-/

namespace SheetSchema.Json

namespace Token

/-! ## Strings -/

/-- What a printed character is read as: control characters without a letter of their own are
escaped as units. -/
def pieceOf (c : Char) : Piece :=
  if c.toNat < 0x20 ∧ c ∉ ['\n', '\r', '\t', '\x08', '\x0c'] then .unit c.toNat else .char c

/-- A digit that is printed is read back. -/
theorem hexValue?_hexDigit (n : ℕ) : hexValue? (hexDigit n) = some (n % 16) := by
  have hlt : n % 16 < 16 := Nat.mod_lt _ (by decide)
  unfold hexDigit
  generalize n % 16 = digit at hlt ⊢
  decide +revert

/-- The code of a control character is read back, its first two digits being zero. -/
theorem hexUnit?_hexDigit {n : ℕ} (small : n < 256) :
    hexUnit? '0' '0' (hexDigit (n / 16)) (hexDigit n) = some n := by
  have hzero : hexValue? '0' = some 0 := by decide
  unfold hexUnit?
  rw [hzero, hexValue?_hexDigit, hexValue?_hexDigit]
  simp only [Option.bind_eq_bind, Option.bind_some, Option.some.injEq]
  omega

/-- A printed character is read as one piece. -/
theorem stringPieces_escapeChar (pieces : List Piece) (c : Char) (rest : List Char) :
    stringPieces pieces (escapeChar c ++ rest) = stringPieces (pieceOf c :: pieces) rest := by
  unfold escapeChar
  split
  · rfl
  · rfl
  · rfl
  · rfl
  · rfl
  · rfl
  · rfl
  · next hquote hbackslash hline hreturn htab hback hfeed =>
    have hplain : c ∉ ['\n', '\r', '\t', '\x08', '\x0c'] := by
      simp only [List.mem_cons, List.not_mem_nil, or_false, not_or]
      exact ⟨hline, hreturn, htab, hback, hfeed⟩
    unfold pieceOf
    split
    · next hcontrol =>
      rw [if_pos ⟨hcontrol, hplain⟩]
      simp only [List.cons_append, List.nil_append, stringPieces,
        hexUnit?_hexDigit (show c.toNat < 256 by omega)]
    · next hcontrol =>
      rw [if_neg (fun h => hcontrol h.1)]
      rw [List.singleton_append, stringPieces.eq_def]
      split <;> simp_all

/-- Escaped characters are read one by one up to the closing quote. -/
theorem stringPieces_escaped (pieces : List Piece) (chars rest : List Char) :
    stringPieces pieces (chars.flatMap escapeChar ++ '"' :: rest) =
      some ((chars.map pieceOf).reverse ++ pieces, rest) := by
  induction chars generalizing pieces with
  | nil => rfl
  | cons c chars ih =>
    rw [List.flatMap_cons, List.append_assoc, stringPieces_escapeChar, ih, List.map_cons,
      List.reverse_cons, List.append_assoc]
    rfl

/-- One piece gives its character back, whatever stands before it. -/
theorem joinPieces_pieceOf (text : List Char) (c : Char) (rest : List Piece) :
    joinPieces text (pieceOf c :: rest) = joinPieces (c :: text) rest := by
  unfold pieceOf
  split
  · next hcontrol =>
    have hlow : isLowSurrogate c.toNat = false := by
      simp only [isLowSurrogate, Bool.and_eq_false_iff, decide_eq_false_iff_not]
      omega
    have hhigh : isHighSurrogate c.toNat = false := by
      simp only [isHighSurrogate, Bool.and_eq_false_iff, decide_eq_false_iff_not]
      omega
    cases rest with
    | nil => simp [joinPieces, hlow, hhigh]
    | cons piece rest =>
      cases piece with
      | char d => simp [joinPieces, hlow, hhigh]
      | unit code => simp [joinPieces, hlow, hhigh]
  · cases rest <;> rfl

/-- The pieces of a printed text join to the text. -/
theorem joinPieces_pieces (text chars : List Char) :
    joinPieces text (chars.map pieceOf).reverse = some (chars ++ text) := by
  induction chars using List.reverseRecOn generalizing text with
  | nil => rfl
  | append_singleton chars c ih =>
    rw [List.map_append, List.reverse_append, List.map_singleton, List.reverse_singleton,
      List.singleton_append, joinPieces_pieceOf, ih, List.append_assoc]
    rfl

/-- A quoted string is one token. -/
theorem next?_quote (text : String) (rest : List Char) :
    next? (quote text ++ rest) = some (string (some text), rest) := by
  have hpieces := stringPieces_escaped [] text.toList rest
  have hjoin := joinPieces_pieces [] text.toList
  rw [List.append_nil] at hpieces hjoin
  unfold quote
  rw [List.cons_append, List.append_assoc, List.singleton_append]
  show (stringPieces [] (text.toList.flatMap escapeChar ++ '"' :: rest)).map _ = _
  rw [hpieces]
  simp [hjoin]

/-! ## Numbers -/

/-- A literal that is a numeral with its sign. -/
def IsNumeral (literal : String) : Prop :=
  ∃ (negative : Bool) (numeral : Numeral),
    literal.toList = Numeral.signChars negative ++ numeral.chars

/-- A numeral starts with a minus or a digit. -/
theorem IsNumeral.exists_cons {literal : String} (numeral : IsNumeral literal) :
    ∃ c rest, literal.toList = c :: rest ∧ (c = '-' ∨ c.isDigit = true) := by
  obtain ⟨negative, parts, hchars⟩ := numeral
  obtain ⟨digit, digits, hwhole⟩ := List.exists_cons_of_ne_nil parts.whole_ne_nil
  rw [hchars]
  cases negative with
  | true => exact ⟨'-', parts.chars, rfl, Or.inl rfl⟩
  | false =>
    refine ⟨digit, digits ++ (parts.fractionChars ++ parts.exponentChars), ?_, Or.inr ?_⟩
    · rw [Numeral.chars, hwhole]
      rfl
    · exact parts.whole_digits digit (by simp [hwhole])

/-- A minus or a digit starts a number. -/
theorem next?_eq_number? {c : Char} {rest : List Char} (start : c = '-' ∨ c.isDigit = true) :
    next? (c :: rest) =
      (number? (c :: rest)).map fun (literal, rest) => (number (String.ofList literal), rest) := by
  unfold next?
  split <;> first
    | rfl
    | (rcases start with h | h <;> simp_all)

/-- A numeral is one token, wherever it ends. -/
theorem next?_numeral {literal : String} (numeral : IsNumeral literal) {rest : List Char}
    (ends : Numeral.Ends rest) :
    next? (literal.toList ++ rest) = some (number literal, rest) := by
  obtain ⟨c, more, hstart, hc⟩ := numeral.exists_cons
  obtain ⟨negative, parts, hchars⟩ := numeral
  have hnumber := parts.number?_chars negative ends
  rw [← hchars] at hnumber
  have hliteral : String.ofList literal.toList = literal := String.ofList_toList
  rw [hstart] at hnumber hliteral ⊢
  rw [List.cons_append] at hnumber ⊢
  rw [next?_eq_number? hc, hnumber, Option.map_some]
  simp only [hliteral]

/-! ## Cutting a text -/

/-- A text is cut into tokens. -/
inductive Cut : List Char → List Token → Prop where
  | nil : Cut [] []
  | blank {c : Char} {rest : List Char} {tokens : List Token} (blank : isBlank c = true)
    (cut : Cut rest tokens) : Cut (c :: rest) tokens
  | token {c : Char} {chars rest : List Char} {token : Token} {tokens : List Token}
    (visible : isBlank c = false) (next : next? (c :: chars) = some (token, rest))
    (shorter : rest.length ≤ chars.length) (cut : Cut rest tokens) :
    Cut (c :: chars) (token :: tokens)

/-- The scan follows the cuts. -/
theorem Cut.scan {chars : List Char} {tokens : List Token} (cut : Cut chars tokens)
    (before : List Token) {fuel : ℕ} (enough : chars.length ≤ fuel) :
    Token.scan before fuel chars = some (tokens.reverse ++ before) := by
  induction cut generalizing before fuel with
  | nil => cases fuel <;> rfl
  | @blank c rest tokens hblank _ ih =>
    rw [List.length_cons] at enough
    obtain ⟨fuel, rfl⟩ := Nat.exists_eq_add_of_le' enough
    rw [← Nat.add_assoc, Token.scan, if_pos hblank]
    exact ih before (by omega)
  | @token c chars rest token tokens hvisible hnext hshorter _ ih =>
    rw [List.length_cons] at enough
    obtain ⟨fuel, rfl⟩ := Nat.exists_eq_add_of_le' enough
    rw [← Nat.add_assoc, Token.scan, if_neg (by simp [hvisible]), hnext]
    simp only
    rw [ih (token :: before) (by omega), List.reverse_cons, List.append_assoc]
    rfl

/-- A cut of a whole text is what reading its tokens gives. -/
theorem Cut.ofText? {text : String} {tokens : List Token} (cut : Cut text.toList tokens) :
    Token.ofText? text = some tokens := by
  unfold Token.ofText?
  simp only
  rw [cut.scan [] le_rfl, List.append_nil, Option.map_some, List.reverse_reverse]

/-- Blanks belong to no token. -/
theorem Cut.blanks {chars rest : List Char} {tokens : List Token}
    (blanks : ∀ c ∈ chars, isBlank c = true) (cut : Cut rest tokens) :
    Cut (chars ++ rest) tokens := by
  induction chars with
  | nil => exact cut
  | cons c chars ih =>
    exact Cut.blank (blanks c List.mem_cons_self)
      (ih fun d hd => blanks d (List.mem_cons_of_mem _ hd))

theorem Cut.newline {rest : List Char} {tokens : List Token} (depth : ℕ) (cut : Cut rest tokens) :
    Cut (newline depth ++ rest) tokens := by
  refine Cut.blanks ?_ cut
  intro c hc
  rcases List.mem_cons.1 hc with rfl | hmem
  · rfl
  · rw [List.eq_of_mem_replicate hmem]
    rfl

/-- A token that is written down takes its characters from the text. -/
theorem Cut.cons {text rest : List Char} {token : Token} {tokens : List Token}
    (visible : ∃ c more, text = c :: more ∧ isBlank c = false)
    (next : next? (text ++ rest) = some (token, rest)) (cut : Cut rest tokens) :
    Cut (text ++ rest) (token :: tokens) := by
  obtain ⟨c, more, rfl, hvisible⟩ := visible
  exact Cut.token hvisible next (by simp) cut

theorem Cut.quote {rest : List Char} {tokens : List Token} (text : String)
    (cut : Cut rest tokens) : Cut (quote text ++ rest) (string (some text) :: tokens) :=
  Cut.cons ⟨'"', _, rfl, rfl⟩ (next?_quote text rest) cut

/-- A name goes before its value with a colon and a blank. -/
theorem Cut.member {rest : List Char} {tokens : List Token} (name : String)
    (cut : Cut rest tokens) :
    Cut (Json.quote name ++ (':' :: ' ' :: rest)) (string (some name) :: colon :: tokens) :=
  Cut.quote name (Cut.token rfl rfl (by simp) (Cut.blank rfl cut))

/-- A numeral is a token if what follows cannot go on with it. -/
theorem Cut.numeral {rest : List Char} {tokens : List Token} {literal : String}
    (numeral : IsNumeral literal) (ends : Numeral.Ends rest) (cut : Cut rest tokens) :
    Cut (literal.toList ++ rest) (number literal :: tokens) := by
  obtain ⟨c, more, hstart, hc⟩ := numeral.exists_cons
  refine Cut.cons ⟨c, more, hstart, ?_⟩ (next?_numeral numeral ends) cut
  unfold isBlank
  rcases hc with rfl | hdigit
  · rfl
  · simp only [Bool.or_eq_false_iff, beq_eq_false_iff_ne]
    refine ⟨⟨⟨?_, ?_⟩, ?_⟩, ?_⟩ <;>
    · rintro rfl
      exact absurd hdigit (by decide)

end Token

/-! ## Printed trees -/

/-- A tree that can be printed: its numbers are numerals, and it stands for texts throughout. -/
inductive Printable : Json → Prop where
  | null : Printable .null
  | bool (value : Bool) : Printable (.bool value)
  | number {literal : String} (numeral : Token.IsNumeral literal) : Printable (.number literal)
  | string (value : String) : Printable (.string value)
  | array {items : List Json} (each : ∀ item ∈ items, Printable item) : Printable (.array items)
  | object {members : List (String × Json)} (each : ∀ member ∈ members, Printable member.2) :
    Printable (.object members)

mutual

/-- Tokens of a tree. -/
def tokens : Json → List Token
  | null => [.null]
  | bool value => [.bool value]
  | number literal => [.number literal]
  | string value => [.string (some value)]
  | array [] => [.openArray, .closeArray]
  | array (item :: items) => .openArray :: (tokens item ++ tokensOfItems items ++ [.closeArray])
  | object [] => [.openObject, .closeObject]
  | object ((name, value) :: members) =>
    .openObject :: .string (some name) :: .colon ::
      (tokens value ++ tokensOfMembers members ++ [.closeObject])
  | unpaired => []

/-- Tokens of the items after the first. -/
def tokensOfItems : List Json → List Token
  | [] => []
  | item :: items => .comma :: (tokens item ++ tokensOfItems items)

/-- Tokens of the members after the first. -/
def tokensOfMembers : List (String × Json) → List Token
  | [] => []
  | (name, value) :: members =>
    .comma :: .string (some name) :: .colon :: (tokens value ++ tokensOfMembers members)

end

open Token (Cut)

theorem ends_newline (depth : ℕ) (rest : List Char) :
    Numeral.Ends (newline depth ++ rest) := by
  rw [newline, List.cons_append]
  exact Numeral.ends_cons (by decide) _

/-- A numeral before the items of a list ends there. -/
theorem ends_items {depth : ℕ} {rest : List Char} (ends : Numeral.Ends rest)
    (items : List Json) : Numeral.Ends (prettyItems depth items ++ rest) := by
  cases items with
  | nil => exact ends
  | cons item items =>
    rw [prettyItems, List.cons_append]
    exact Numeral.ends_cons (by decide) _

/-- A numeral before the members of a record ends there. -/
theorem ends_members {depth : ℕ} {rest : List Char} (ends : Numeral.Ends rest)
    (members : List (String × Json)) : Numeral.Ends (prettyMembers depth members ++ rest) := by
  cases members with
  | nil => exact ends
  | cons member members =>
    rw [prettyMembers, List.cons_append]
    exact Numeral.ends_cons (by decide) _

mutual

/-- A printed tree is cut into its tokens. -/
theorem cut_pretty {rest : List Char} {after : List Token} (cut : Cut rest after)
    (ends : Numeral.Ends rest) (depth : ℕ) :
    (json : Json) → Printable json → Cut (pretty depth json ++ rest) (tokens json ++ after)
  | .null, _ => Cut.cons ⟨'n', _, rfl, rfl⟩ rfl cut
  | .bool true, _ => Cut.cons ⟨'t', _, rfl, rfl⟩ rfl cut
  | .bool false, _ => Cut.cons ⟨'f', _, rfl, rfl⟩ rfl cut
  | .number literal, printable => by
    cases printable with
    | number numeral => exact Cut.numeral numeral ends cut
  | .string value, _ => Cut.quote value cut
  | .array [], _ => Cut.token rfl rfl (by simp) (Cut.token rfl rfl (by simp) cut)
  | .array (item :: items), printable => by
    cases printable with
    | array each =>
      obtain ⟨hitem, hitems⟩ := List.forall_mem_cons.1 each
      -- cut from the end on: what follows decides where the number before it ends
      have hclose : Cut (newline depth ++ (']' :: rest)) (.closeArray :: after) :=
        (Cut.token rfl rfl (by simp) cut).newline depth
      have hends := ends_newline depth (']' :: rest)
      have hrest := cut_prettyItems hclose hends (depth + 1) items hitems
      have hfirst := cut_pretty hrest (ends_items hends items) (depth + 1) item hitem
      simp only [pretty, tokens, List.append_assoc, List.cons_append, List.nil_append]
      exact Cut.token rfl rfl (by simp) (hfirst.newline (depth + 1))
  | .object [], _ => Cut.token rfl rfl (by simp) (Cut.token rfl rfl (by simp) cut)
  | .object ((name, value) :: members), printable => by
    cases printable with
    | object each =>
      obtain ⟨hvalue, hmembers⟩ := List.forall_mem_cons.1 each
      have hclose : Cut (newline depth ++ ('\x7d' :: rest)) (.closeObject :: after) :=
        (Cut.token rfl rfl (by simp) cut).newline depth
      have hends := ends_newline depth ('\x7d' :: rest)
      have hrest := cut_prettyMembers hclose hends (depth + 1) members hmembers
      have hfirst := cut_pretty hrest (ends_members hends members) (depth + 1) value hvalue
      simp only [pretty, tokens, List.append_assoc, List.cons_append, List.nil_append]
      exact Cut.token rfl rfl (by simp) (((hfirst.member name)).newline (depth + 1))
  | .unpaired, printable => by cases printable

/-- Printed items, each on a line of its own, are cut into their tokens. -/
theorem cut_prettyItems {rest : List Char} {after : List Token} (cut : Cut rest after)
    (ends : Numeral.Ends rest) (depth : ℕ) :
    (items : List Json) → (∀ item ∈ items, Printable item) →
      Cut (prettyItems depth items ++ rest) (tokensOfItems items ++ after)
  | [], _ => cut
  | item :: items, printable => by
    obtain ⟨hitem, hitems⟩ := List.forall_mem_cons.1 printable
    have hrest := cut_prettyItems cut ends depth items hitems
    have hfirst := cut_pretty hrest (ends_items ends items) depth item hitem
    simp only [prettyItems, tokensOfItems, List.append_assoc, List.cons_append]
    exact Cut.token rfl rfl (by simp) (hfirst.newline depth)

/-- Printed members, each behind its name, are cut into their tokens. -/
theorem cut_prettyMembers {rest : List Char} {after : List Token} (cut : Cut rest after)
    (ends : Numeral.Ends rest) (depth : ℕ) :
    (members : List (String × Json)) → (∀ member ∈ members, Printable member.2) →
      Cut (prettyMembers depth members ++ rest) (tokensOfMembers members ++ after)
  | [], _ => cut
  | (name, value) :: members, printable => by
    obtain ⟨hvalue, hmembers⟩ := List.forall_mem_cons.1 printable
    have hrest := cut_prettyMembers cut ends depth members hmembers
    have hfirst := cut_pretty hrest (ends_members ends members) depth value hvalue
    simp only [prettyMembers, tokensOfMembers, List.append_assoc, List.cons_append,
      List.nil_append]
    exact Cut.token rfl rfl (by simp) ((hfirst.member name).newline depth)

end

/-- The text of a document is cut into the tokens of its tree. -/
theorem ofText?_toDocument {json : Json} (printable : Printable json) :
    Token.ofText? json.toDocument = some json.tokens := by
  have hend : Cut ['\n'] [] := Cut.blank rfl Cut.nil
  have hends : Numeral.Ends ['\n'] := by
    intro c hc
    obtain rfl : '\n' = c := by simpa using hc
    decide
  have hcut := cut_pretty hend hends 0 json printable
  rw [List.append_nil] at hcut
  refine Cut.ofText? ?_
  rw [toDocument, String.toList_ofList]
  exact hcut

end SheetSchema.Json
