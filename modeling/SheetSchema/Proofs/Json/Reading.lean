import SheetSchema.Json.Reader
import SheetSchema.Proofs.Json.Tokens

/-!
# Printed trees are read back

Shifting the tokens of a tree where a value must come completes the tree, and hands it to whatever
container is open. So the text of a document is read as the tree that was printed: names, texts and
literals are the same, members and items are in the same order, and nothing is lost.
-/

namespace SheetSchema.Json

/-! ## Complete objects -/

/-- Members as they wait for the end of their object, last first. -/
def pending (members : List (String × Json)) : List (Option String × Json) :=
  (members.map fun member => (some member.1, member.2)).reverse

theorem pending_append_singleton (members : List (String × Json)) (name : String) (value : Json) :
    pending (members ++ [(name, value)]) = (some name, value) :: pending members := by
  simp [pending]

theorem membersOf?_pending (members : List (String × Json)) :
    membersOf? (pending members) = some members := by
  have hfold : ∀ rest : List (String × Json),
      (pending members).foldl
        (fun rest member => do some ((← member.1, member.2) :: (← rest))) (some rest) =
        some (members ++ rest) := by
    -- the last member waits first, so members are taken off the end
    induction members using List.reverseRecOn with
    | nil => intro rest; rfl
    | append_singleton members member ih =>
      intro rest
      rw [pending_append_singleton, List.foldl_cons, List.append_assoc]
      exact ih (member :: rest)
  have hall := hfold []
  rwa [List.append_nil] at hall

/-- An object whose members are all named is complete. -/
theorem objectOf_pending (members : List (String × Json)) :
    objectOf (pending members) = .object members := by
  rw [objectOf, membersOf?_pending]

/-! ## Shifting a tree -/

/-- Where an item may come or the array may end, the tokens of a tree start an item. -/
theorem shift_firstItem {json : Json} (printable : Printable json) (stack : List Frame)
    (rest : List Token) :
    (json.tokens ++ rest).foldlM State.shift (.firstItem stack) =
      (json.tokens ++ rest).foldlM State.shift (.value (.array [] :: stack)) := by
  cases printable with
  | null => rfl
  | bool value => rfl
  | number numeral => rfl
  | string value => rfl
  | @array items each => cases items <;> rfl
  | @object members each => cases members <;> rfl

mutual

/-- The tokens of a tree complete it. -/
theorem shift_tokens (stack : List Frame) (rest : List Token) :
    (json : Json) → Printable json →
      (json.tokens ++ rest).foldlM State.shift (.value stack) =
        rest.foldlM State.shift (.complete json stack)
  | .null, _ => rfl
  | .bool _, _ => rfl
  | .number _, _ => rfl
  | .string _, _ => rfl
  | .array [], _ => rfl
  | .array (item :: items), printable => by
    cases printable with
    | array each =>
      obtain ⟨hitem, hitems⟩ := List.forall_mem_cons.1 each
      -- the array might end here, but no tree starts with a bracket that ends one
      have hfirst := shift_firstItem hitem stack (tokensOfItems items ++ .closeArray :: rest)
      rw [shift_tokens _ _ item hitem] at hfirst
      have hrest := shift_tokensOfItems [item] stack rest items hitems
      simp only [tokens, List.append_assoc, List.cons_append, List.nil_append]
      exact hfirst.trans hrest
  | .object [], _ => rfl
  | .object ((name, value) :: members), printable => by
    cases printable with
    | object each =>
      obtain ⟨hvalue, hmembers⟩ := List.forall_mem_cons.1 each
      have hfirst := shift_tokens (.object [] (some name) :: stack)
        (tokensOfMembers members ++ .closeObject :: rest) value hvalue
      have hrest := shift_tokensOfMembers [(name, value)] stack rest members hmembers
      simp only [tokens, List.append_assoc, List.cons_append, List.nil_append]
      exact hfirst.trans hrest
  | .unpaired, printable => by cases printable

theorem shift_tokensOfItems (before : List Json) (stack : List Frame) (rest : List Token) :
    (items : List Json) → (∀ item ∈ items, Printable item) →
      (tokensOfItems items ++ .closeArray :: rest).foldlM State.shift
          (.afterItem before.reverse stack) =
        rest.foldlM State.shift (.complete (.array (before ++ items)) stack)
  | [], _ => by
    rw [List.append_nil]
    show rest.foldlM State.shift (.complete (.array before.reverse.reverse) stack) = _
    rw [List.reverse_reverse]
  | item :: items, printable => by
    obtain ⟨hitem, hitems⟩ := List.forall_mem_cons.1 printable
    have hfirst := shift_tokens (.array before.reverse :: stack)
      (tokensOfItems items ++ .closeArray :: rest) item hitem
    have hrest := shift_tokensOfItems (before ++ [item]) stack rest items hitems
    rw [List.append_assoc, List.reverse_append] at hrest
    simp only [tokensOfItems, List.append_assoc, List.cons_append]
    exact hfirst.trans hrest

theorem shift_tokensOfMembers (before : List (String × Json)) (stack : List Frame)
    (rest : List Token) :
    (members : List (String × Json)) → (∀ member ∈ members, Printable member.2) →
      (tokensOfMembers members ++ .closeObject :: rest).foldlM State.shift
          (.afterMember (pending before) stack) =
        rest.foldlM State.shift (.complete (.object (before ++ members)) stack)
  | [], _ => by
    rw [List.append_nil]
    show rest.foldlM State.shift (.complete (objectOf (pending before)) stack) = _
    rw [objectOf_pending]
  | (name, value) :: members, printable => by
    obtain ⟨hvalue, hmembers⟩ := List.forall_mem_cons.1 printable
    have hfirst := shift_tokens (.object (pending before) (some name) :: stack)
      (tokensOfMembers members ++ .closeObject :: rest) value hvalue
    have hrest := shift_tokensOfMembers (before ++ [(name, value)]) stack rest members hmembers
    rw [List.append_assoc, pending_append_singleton] at hrest
    simp only [tokensOfMembers, List.append_assoc, List.cons_append]
    exact hfirst.trans hrest

end

/-! ## Documents -/

/-- The text of a document is read as its tree. -/
theorem read?_toDocument {json : Json} (printable : Printable json) :
    read? json.toDocument = some json := by
  have hshift := shift_tokens [] [] json printable
  rw [List.append_nil] at hshift
  unfold read?
  rw [ofText?_toDocument printable]
  simp only [Option.bind_eq_bind, Option.bind_some]
  rw [hshift]
  rfl

end SheetSchema.Json
