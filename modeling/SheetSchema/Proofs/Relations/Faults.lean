import SheetSchema.Proofs.Blocks
import SheetSchema.Proofs.Relations.Expansion

/-!
# Names that cannot be expanded

Expansion looks at the names of the fields only. It fails if a dotted name does not point at a
model, or if two fields produce a field of the same name.
-/

namespace SheetSchema

/-! ## Dotted names -/

/-- A dotted name points at a model: a package that is neither empty nor dotted, and an
identifier. -/
def PointsAtModel (key : String) : Prop :=
  ∃ target : ModelName, key = target.qualified ∧ target.package ≠ "" ∧
    '.' ∉ target.package.toList ∧ Text.isIdentifier target.model = true

/-- Names of the fields that a field produces. A dotted name is cut at its first dot. -/
inductive Produces : String → String → Prop
  | field {key : String} (undotted : '.' ∉ key.toList) : Produces key key
  | reference {target : ModelName} (package : '.' ∉ target.package.toList) :
      Produces target.qualified target.model
  | identifier {target : ModelName} (package : '.' ∉ target.package.toList) :
      Produces target.qualified (target.model ++ "Id")

theorem dot_mem_qualified (target : ModelName) : '.' ∈ target.qualified.toList := by
  rw [ModelName.toList_qualified]
  simp

theorem produces_of_undotted {key name : String} (undotted : '.' ∉ key.toList) :
    Produces key name ↔ name = key := by
  constructor
  · intro h
    cases h with
    | field => rfl
    | reference => exact absurd (dot_mem_qualified _) undotted
    | identifier => exact absurd (dot_mem_qualified _) undotted
  · intro h
    subst h
    exact .field undotted

/-- A name is cut at its first dot in one way only. -/
theorem model_eq_of_qualified_eq {first second : ModelName} (one : '.' ∉ first.package.toList)
    (other : '.' ∉ second.package.toList) (same : first.qualified = second.qualified) :
    first.model = second.model := by
  have hcut := congrArg (fun key : String => key.toList.span (· != '.')) same
  simp only [ModelName.toList_qualified] at hcut
  rw [ModelName.span_dot one, ModelName.span_dot other, Prod.mk.injEq, List.cons.injEq] at hcut
  exact String.toList_inj.1 hcut.2.2

theorem produces_qualified {target : ModelName} {name : String}
    (package : '.' ∉ target.package.toList) :
    Produces target.qualified name ↔ name = target.model ∨ name = target.model ++ "Id" := by
  constructor
  · intro h
    generalize hkey : target.qualified = key at h
    cases h with
    | field undotted => exact absurd (hkey ▸ dot_mem_qualified target) undotted
    | reference package' => exact Or.inl (model_eq_of_qualified_eq package package' hkey).symm
    | identifier package' => rw [model_eq_of_qualified_eq package package' hkey]; exact Or.inr rfl
  · intro h
    rcases h with rfl | rfl
    · exact .reference package
    · exact .identifier package

/-- A dotted name is refused if it points at no model. -/
theorem ModelName.ofKey?_eq_error_iff {key : String} {error : Error} :
    ofKey? key = some (.error error) ↔
      '.' ∈ key.toList ∧ ¬ PointsAtModel key ∧ error = .malformedRelationship key := by
  have hpoints : PointsAtModel key ↔ ∃ target, ofKey? key = some (.ok target) :=
    exists_congr fun _ => ofKey?_eq_ok_iff.symm
  rw [hpoints]
  by_cases hdot : '.' ∈ key.toList
  · obtain ⟨before, after, hkey, hbefore⟩ := List.eq_append_cons_of_mem hdot
    rw [ofKey?_of_split hkey hbefore]
    split <;> simp [hdot, eq_comm]
  · simp [ofKey?_of_notMem hdot, hdot]

namespace Relations

variable {owner : ModelName}

/-- Why fields of the given names cannot be expanded. -/
inductive NameFault (owner : ModelName) (keys : List String) : Error → Prop
  /-- A dotted name points at no model. -/
  | malformed {key : String} (declared : key ∈ keys) (dotted : '.' ∈ key.toList)
      (malformed : ¬ PointsAtModel key) : NameFault owner keys (.malformedRelationship key)
  /-- Two fields produce a field of the same name. -/
  | collision {first second name : String} (declared : first ∈ keys) (declared' : second ∈ keys)
      (differ : first ≠ second) (produces : Produces first name)
      (produces' : Produces second name) :
      NameFault owner keys (.outputCollision owner first second name)

/-- The outputs of a field bear the names that it produces. -/
theorem mem_names_iff_produces {key name : String} {field : TypedField}
    {block : List (String × TypedField)} (done : expandField owner key field = .ok block) :
    name ∈ block.map Prod.fst ↔ Produces key name := by
  rcases expandField_eq_ok done with ⟨hnone, rfl⟩ | ⟨target, htarget, rfl⟩
  · rw [produces_of_undotted (ModelName.ofKey?_eq_none_iff.1 hnone)]
    simp
  · obtain ⟨rfl, -, hpackage, -⟩ := ModelName.ofKey?_eq_ok_iff.1 htarget
    rw [produces_qualified hpackage]
    simp [identifierName]

/-- A field can only fail for its key. -/
theorem expandField_eq_error {key : String} {field : TypedField} {error : Error}
    (failed : expandField owner key field = .error error) :
    ModelName.ofKey? key = some (.error error) := by
  unfold expandField at failed
  split at failed
  · contradiction
  · next e herror =>
    rw [Except.error.injEq] at failed
    rw [herror, failed]
  · contradiction

/-! ## Outputs and their sources -/

/-- Every output so far is produced by one of the fields that have been expanded. -/
def Sourced (keys : List String) (outputs : OrderedMap (String × TypedField)) : Prop :=
  ∀ name source field, outputs.get? name = some (source, field) →
    source ∈ keys ∧ Produces source name

/-- One output is added under a new name. -/
theorem addOutput_eq_ok {source : String} {outputs next : OrderedMap (String × TypedField)}
    {output : String × TypedField} (done : addOutput owner source outputs output = .ok next) :
    next = outputs.insert output.1 (source, output.2) := by
  unfold addOutput at done
  split at done
  · contradiction
  · rw [Except.ok.injEq] at done
    exact done.symm

/-- An output is refused if its name is taken. -/
theorem addOutput_eq_error {source : String} {outputs : OrderedMap (String × TypedField)}
    {output : String × TypedField} {error : Error}
    (failed : addOutput owner source outputs output = .error error) :
    ∃ previous field, outputs.get? output.1 = some (previous, field) ∧
      error = .outputCollision owner previous source output.1 := by
  unfold addOutput at failed
  split at failed
  · next previous field htaken =>
    rw [Except.error.injEq] at failed
    exact ⟨previous, field, htaken, failed.symm⟩
  · contradiction

/-- Every output so far comes from a field that produces it. -/
theorem sourced_of_addOutput {keys : List String} {source : String}
    {outputs next : OrderedMap (String × TypedField)} {output : String × TypedField}
    (start : Sourced keys outputs) (known : source ∈ keys) (produces : Produces source output.1)
    (done : addOutput owner source outputs output = .ok next) : Sourced keys next := by
  intro name other field hfound
  rw [addOutput_eq_ok done, OrderedMap.get?_insert] at hfound
  split at hfound
  · next hname =>
    simp only [Option.some.injEq, Prod.mk.injEq] at hfound
    rw [← hfound.1, hname]
    exact ⟨known, produces⟩
  · exact start name other field hfound

theorem sourced_of_foldlM_addOutput {keys : List String} {source : String}
    {outputs final : OrderedMap (String × TypedField)} {block : List (String × TypedField)}
    (start : Sourced keys outputs) (known : source ∈ keys)
    (produces : ∀ output ∈ block, Produces source output.1)
    (done : block.foldlM (addOutput owner source) outputs = .ok final) : Sourced keys final := by
  induction block generalizing outputs with
  | nil =>
    have hsame : outputs = final := by simpa [pure, Except.pure] using done
    exact hsame ▸ start
  | cons output rest ih =>
    rw [List.foldlM_cons, bind_eq_ok_iff] at done
    obtain ⟨next, houtput, hrest⟩ := done
    have hnext : Sourced keys next :=
      sourced_of_addOutput start known (produces output List.mem_cons_self) houtput
    exact ih hnext (fun other hmem => produces other (List.mem_cons_of_mem _ hmem)) hrest

/-- After some fields have been expanded, every output comes from one of them. -/
theorem sourced_of_foldlM_addExpansion {keys : List String}
    {outputs final : OrderedMap (String × TypedField)} {entries : List (String × TypedField)}
    (start : Sourced keys outputs) (known : ∀ entry ∈ entries, entry.1 ∈ keys)
    (done : entries.foldlM (addExpansion owner) outputs = .ok final) : Sourced keys final := by
  induction entries generalizing outputs with
  | nil =>
    have hsame : outputs = final := by simpa [pure, Except.pure] using done
    exact hsame ▸ start
  | cons entry rest ih =>
    rw [List.foldlM_cons, bind_eq_ok_iff] at done
    obtain ⟨next, hentry, hrest⟩ := done
    obtain ⟨block, hblock, hadd⟩ := bind_eq_ok_iff.1 hentry
    have hproduces : ∀ output ∈ block, Produces entry.1 output.1 := fun output hmem =>
      (mem_names_iff_produces hblock).1 (List.mem_map_of_mem hmem)
    have hnext : Sourced keys next :=
      sourced_of_foldlM_addOutput start (known entry List.mem_cons_self) hproduces hadd
    exact ih hnext (fun other hmem => known other (List.mem_cons_of_mem _ hmem)) hrest

/-! ## When expansion fails -/

/-- The two halves of a relationship never have the same name. -/
theorem model_ne_identifierName (target : ModelName) : target.model ≠ identifierName target := by
  intro hsame
  have hlength := congrArg String.length hsame
  rw [identifierName, String.length_append] at hlength
  have hsuffix : "Id".length = 2 := by decide
  omega

/-- The outputs of one field do not collide with each other: a name that is taken when one of them
is added was taken before the field. -/
theorem get?_of_expandField {key : String} {field : TypedField}
    {before after : List (String × TypedField)} {output : String × TypedField}
    {outputs reached : OrderedMap (String × TypedField)} {taken : String × TypedField}
    (block : expandField owner key field = .ok (before ++ output :: after))
    (run : before.foldlM (addOutput owner key) outputs = .ok reached)
    (found : reached.get? output.1 = some taken) : outputs.get? output.1 = some taken := by
  cases before with
  | nil =>
    have hsame : outputs = reached := by simpa [pure, Except.pure] using run
    exact hsame ▸ found
  | cons first rest =>
    -- only the second half of a relationship has an output before it, of another name
    rcases expandField_eq_ok block with ⟨-, hsplit⟩ | ⟨target, -, hsplit⟩
    · simp at hsplit
    · cases rest with
      | nil =>
        simp only [List.cons_append, List.nil_append, List.cons.injEq] at hsplit
        obtain ⟨rfl, rfl, -⟩ := hsplit
        rw [List.foldlM_cons, bind_eq_ok_iff] at run
        obtain ⟨next, hfirst, hnext⟩ := run
        have hsame : next = reached := by simpa [pure, Except.pure] using hnext
        rw [← hsame, addOutput_eq_ok hfirst, OrderedMap.get?_insert,
          if_neg (model_ne_identifierName target).symm] at found
        exact found
      | cons second rest => simp at hsplit

/-- The name at which the outputs of one field collide is one that an earlier field produces. -/
theorem exists_collision_of_addExpansion {outputs : OrderedMap (String × TypedField)}
    {key : String} {field : TypedField} {error : Error}
    (failed : addExpansion owner outputs (key, field) = .error error) :
    ModelName.ofKey? key = some (.error error) ∨
      ∃ name previous field, outputs.get? name = some (previous, field) ∧ Produces key name ∧
        error = .outputCollision owner previous key name := by
  unfold addExpansion at failed
  rcases bind_eq_error_iff.1 failed with hexpand | ⟨block, hblock, hadd⟩
  · exact Or.inl (expandField_eq_error hexpand)
  · obtain ⟨before, output, after, reached, rfl, hrun, houtput⟩ :=
      exists_step_of_foldlM_eq_error hadd
    obtain ⟨previous, taken, htaken, rfl⟩ := addOutput_eq_error houtput
    have hproduces : Produces key output.1 :=
      (mem_names_iff_produces hblock).1 (by simp)
    exact Or.inr ⟨output.1, previous, taken, get?_of_expandField hblock hrun htaken, hproduces, rfl⟩

/-- What an expansion fails with is a fault of the names. -/
theorem nameFault_of_expandModel {fields : TypedModel} {error : Error}
    (failed : expandModel owner fields = .error error) : NameFault owner fields.keys error := by
  unfold expandModel at failed
  rcases bind_eq_error_iff.1 failed with hrun | ⟨outputs, -, hdone⟩
  · obtain ⟨before, ⟨key, field⟩, after, reached, hentries, hbefore, hstep⟩ :=
      exists_step_of_foldlM_eq_error hrun
    have hkeys : fields.keys = before.map Prod.fst ++ key :: after.map Prod.fst := by
      rw [OrderedMap.keys, hentries, List.map_append, List.map_cons]
    have hkey : key ∈ fields.keys := by rw [hkeys]; simp
    rcases exists_collision_of_addExpansion hstep with hmalformed | hcollision
    · obtain ⟨hdotted, hpoints, rfl⟩ := ModelName.ofKey?_eq_error_iff.1 hmalformed
      exact .malformed hkey hdotted hpoints
    · obtain ⟨name, previous, taken, htaken, hproduces, rfl⟩ := hcollision
      have hsourced : Sourced (before.map Prod.fst) reached := by
        have hempty : Sourced (before.map Prod.fst) OrderedMap.empty := by
          intro name source field hfound
          simp at hfound
        exact sourced_of_foldlM_addExpansion hempty (fun _ => List.mem_map_of_mem) hbefore
      obtain ⟨hprevious, hproduces'⟩ := hsourced name previous taken htaken
      have hdiffer : previous ≠ key := by
        have hnodup := fields.nodup_keys
        rw [hkeys, List.nodup_append] at hnodup
        exact hnodup.2.2 previous hprevious key (by simp)
      exact .collision (by rw [hkeys]; simp [hprevious]) hkey hdiffer hproduces' hproduces
  · contradiction

/-- Names that are expanded have no fault. -/
theorem not_nameFault_of_expandModel {fields expanded : TypedModel} {error : Error}
    (done : expandModel owner fields = .ok expanded) : ¬ NameFault owner fields.keys error := by
  intro hfault
  obtain ⟨blocks, hblocks, hentries⟩ := entries_of_expandModel done
  have hproduces : List.Forall₂
      (fun key names => ∀ name, Produces key name ↔ name ∈ names)
      fields.keys (blocks.map (List.map Prod.fst)) := by
    rw [OrderedMap.keys, List.forall₂_map_left_iff, List.forall₂_map_right_iff]
    exact hblocks.imp fun entry block hblock name => (mem_names_iff_produces hblock).symm
  cases hfault with
  | @malformed key declared dotted malformed =>
    obtain ⟨⟨_, field⟩, hmem, rfl⟩ := List.mem_map.1 declared
    obtain ⟨block, -, hblock⟩ := exists_mem_of_forall₂ hblocks hmem
    rcases expandField_eq_ok hblock with ⟨hnone, -⟩ | ⟨target, htarget, -⟩
    · exact ModelName.ofKey?_eq_none_iff.1 hnone dotted
    · exact malformed ⟨target, ModelName.ofKey?_eq_ok_iff.1 htarget⟩
  | @collision first second name declared declared' differ produces produces' =>
    -- names of different fields stand in different blocks, and no name stands twice
    have hnodup : (blocks.map (List.map Prod.fst)).flatten.Nodup := by
      rw [← List.map_flatten, ← hentries]
      exact expanded.nodup
    exact differ (eq_of_nodup_flatten hproduces hnodup declared declared'
      (fun names hnames => (hnames name).1 produces)
      (fun names hnames => (hnames name).1 produces'))

/-- The fields of a model are expanded, unless a dotted name points at no model or two fields
produce a field of the same name. -/
theorem expandModel_failsExactly (owner : ModelName) (fields : TypedModel) :
    FailsExactly (expandModel owner fields) (NameFault owner fields.keys) where
  fault _ := nameFault_of_expandModel
  sound _ hdone _ := not_nameFault_of_expandModel hdone

end Relations

end SheetSchema
