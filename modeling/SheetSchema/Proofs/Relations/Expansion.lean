import SheetSchema.Proofs.ModelNames
import SheetSchema.Proofs.OrderedMap
import SheetSchema.Proofs.Runs

/-!
# Expanded models

A model that expands holds, in order, the fields that each of its fields becomes, and nothing
else. Since every output is added under a new name, no output replaces another.
-/

namespace SheetSchema.Relations

variable {owner : ModelName}

/-! ## Adding outputs -/

/-- The fields added so far, without their sources. -/
def added (outputs : OrderedMap (String × TypedField)) : List (String × TypedField) :=
  outputs.entries.map fun output => (output.1, output.2.2)

theorem added_of_addOutput {source : String} {outputs next : OrderedMap (String × TypedField)}
    {output : String × TypedField} (done : addOutput owner source outputs output = .ok next) :
    added next = added outputs ++ [output] := by
  unfold addOutput at done
  split at done
  · contradiction
  · next hnone =>
    simp only [Except.ok.injEq] at done
    subst done
    -- a name that is taken has been refused above, so the output goes to the end
    rw [added, OrderedMap.entries_insert_of_notMem (OrderedMap.get?_eq_none_iff.1 hnone),
      List.map_append]
    rfl

theorem added_of_foldlM_addOutput {source : String}
    {outputs final : OrderedMap (String × TypedField)} {block : List (String × TypedField)}
    (done : block.foldlM (addOutput owner source) outputs = .ok final) :
    added final = added outputs ++ block := by
  induction block generalizing outputs with
  | nil =>
    have hsame : outputs = final := by simpa [pure, Except.pure] using done
    rw [hsame, List.append_nil]
  | cons output rest ih =>
    rw [List.foldlM_cons, bind_eq_ok_iff] at done
    obtain ⟨next, houtput, hrest⟩ := done
    rw [ih hrest, added_of_addOutput houtput, List.append_assoc]
    rfl

theorem added_of_addExpansion {outputs next : OrderedMap (String × TypedField)}
    {entry : String × TypedField} (done : addExpansion owner outputs entry = .ok next) :
    ∃ block, expandField owner entry.1 entry.2 = .ok block ∧
      added next = added outputs ++ block := by
  unfold addExpansion at done
  obtain ⟨block, hblock, hadd⟩ := bind_eq_ok_iff.1 done
  exact ⟨block, hblock, added_of_foldlM_addOutput hadd⟩

theorem added_of_foldlM_addExpansion {outputs final : OrderedMap (String × TypedField)}
    {entries : List (String × TypedField)}
    (done : entries.foldlM (addExpansion owner) outputs = .ok final) :
    ∃ blocks,
      List.Forall₂ (fun entry block => expandField owner entry.1 entry.2 = .ok block)
        entries blocks ∧
      added final = added outputs ++ blocks.flatten := by
  induction entries generalizing outputs with
  | nil =>
    have hsame : outputs = final := by simpa [pure, Except.pure] using done
    exact ⟨[], List.Forall₂.nil, by rw [hsame, List.flatten_nil, List.append_nil]⟩
  | cons entry rest ih =>
    rw [List.foldlM_cons, bind_eq_ok_iff] at done
    obtain ⟨next, hentry, hrest⟩ := done
    obtain ⟨block, hblock, hnext⟩ := added_of_addExpansion hentry
    obtain ⟨blocks, hblocks, hfinal⟩ := ih hrest
    refine ⟨block :: blocks, List.Forall₂.cons hblock hblocks, ?_⟩
    rw [hfinal, hnext, List.flatten_cons, List.append_assoc]

/-! ## Expanded models -/

/-- The fields of an expanded model are what its fields become, in order. -/
theorem entries_of_expandModel {fields expanded : TypedModel}
    (done : expandModel owner fields = .ok expanded) :
    ∃ blocks,
      List.Forall₂ (fun entry block => expandField owner entry.1 entry.2 = .ok block)
        fields.entries blocks ∧
      expanded.entries = blocks.flatten := by
  unfold expandModel at done
  obtain ⟨outputs, hrun, hresult⟩ := bind_eq_ok_iff.1 done
  obtain ⟨blocks, hblocks, hadded⟩ := added_of_foldlM_addExpansion hrun
  simp only [Except.ok.injEq] at hresult
  subst hresult
  exact ⟨blocks, hblocks, hadded⟩

/-- What a field becomes, if it becomes something. -/
theorem expandField_eq_ok {name : String} {field : TypedField}
    {block : List (String × TypedField)} (done : expandField owner name field = .ok block) :
    (ModelName.ofKey? name = none ∧ block = [(name, field)]) ∨
      ∃ target, ModelName.ofKey? name = some (.ok target) ∧
        block = [(target.model, referenceField owner target),
          (identifierName target, identifierField field)] := by
  unfold expandField at done
  split at done
  · next hnone =>
    simp only [Except.ok.injEq] at done
    exact Or.inl ⟨hnone, done.symm⟩
  · contradiction
  · next target htarget =>
    simp only [Except.ok.injEq] at done
    exact Or.inr ⟨target, htarget, done.symm⟩

end SheetSchema.Relations
