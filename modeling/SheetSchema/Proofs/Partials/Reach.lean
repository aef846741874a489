import Mathlib.Logic.Relation
import SheetSchema.Partials
import SheetSchema.Proofs.OrderedMap
import SheetSchema.Proofs.Runs

/-!
# Partials that a model reaches

Fields of a model refer to partials, and fields of partials to further ones. Inlining follows these
references as far as they lead, so it fails exactly when they lead to a partial that does not exist
or back to a partial that was already entered.
-/

namespace SheetSchema

/-! ## References -/

/-- A field stands for a partial if its name is the name of the partial behind the mark. -/
theorem partialName?_eq_some_iff {field name : String} :
    partialName? field = some name ↔ field = Names.partialMark ++ name := by
  unfold partialName?
  rw [Option.map_eq_some_iff]
  constructor
  · intro h
    obtain ⟨rest, hrest, rfl⟩ := h
    have hchars := List.isPrefixOf?_eq_some_iff_append_eq.1 hrest
    rw [← String.toList_inj, String.toList_append, String.toList_ofList, hchars]
  · intro h
    refine ⟨name.toList, ?_, String.ofList_toList⟩
    rw [List.isPrefixOf?_eq_some_iff_append_eq, h, String.toList_append]

/-- Some row of a list stands for a partial. -/
def RefersTo (rows : List (String × Row)) (name : String) : Prop :=
  Names.partialMark ++ name ∈ rows.map Prod.fst

/-- Rows refer to what the first or one of the others names. -/
theorem refersTo_cons_iff {entry : String × Row} {rest : List (String × Row)} {name : String} :
    RefersTo (entry :: rest) name ↔ partialName? entry.1 = some name ∨ RefersTo rest name := by
  rw [RefersTo, List.map_cons, List.mem_cons, partialName?_eq_some_iff, eq_comm, RefersTo]

namespace Partials

variable {partials : Partials} {rows : List (String × Row)}

/-- The fields of one partial refer to another. -/
def Includes (partials : Partials) (outer inner : String) : Prop :=
  ∃ fields, partials.get? outer = some fields ∧ RefersTo fields.entries inner

/-- References lead from some rows to a partial, directly or through other partials. -/
def Reaches (partials : Partials) (rows : List (String × Row)) (name : String) : Prop :=
  ∃ first, RefersTo rows first ∧ Relation.ReflTransGen partials.Includes first name

/-- A partial includes itself, directly or through other partials. -/
def Circular (partials : Partials) (name : String) : Prop :=
  Relation.TransGen partials.Includes name name

theorem not_reaches_nil {name : String} : ¬ partials.Reaches [] name := by
  intro h
  obtain ⟨first, hfirst, -⟩ := h
  simp [RefersTo] at hfirst

/-- What rows name themselves is reached. -/
theorem reaches_of_refersTo {name : String} (refers : RefersTo rows name) :
    partials.Reaches rows name :=
  ⟨name, refers, Relation.ReflTransGen.refl⟩

/-- What the fields of a partial reach is reached through the partial. -/
theorem reaches_of_inner {outer name : String} {fields : RawModel} (refers : RefersTo rows outer)
    (known : partials.get? outer = some fields) (inner : partials.Reaches fields.entries name) :
    partials.Reaches rows name := by
  obtain ⟨first, hfirst, hsteps⟩ := inner
  exact ⟨outer, refers, Relation.ReflTransGen.head ⟨fields, known, hfirst⟩ hsteps⟩

/-- A partial is reached by a row that stands for it, from the fields of the partial for which the
first row stands, or from the other rows. -/
theorem reaches_cons_iff {entry : String × Row} {name : String} :
    partials.Reaches (entry :: rows) name ↔
      (∃ outer, partialName? entry.1 = some outer ∧
        (name = outer ∨
          ∃ fields, partials.get? outer = some fields ∧ partials.Reaches fields.entries name)) ∨
      partials.Reaches rows name := by
  constructor
  · intro h
    obtain ⟨first, hfirst, hsteps⟩ := h
    rcases refersTo_cons_iff.1 hfirst with hentry | hrest
    · refine Or.inl ⟨first, hentry, ?_⟩
      rcases Relation.ReflTransGen.cases_head hsteps with rfl | ⟨next, hnext, hsteps⟩
      · exact Or.inl rfl
      · obtain ⟨fields, hfields, hrefers⟩ := hnext
        exact Or.inr ⟨fields, hfields, next, hrefers, hsteps⟩
    · exact Or.inr ⟨first, hrest, hsteps⟩
  · intro h
    rcases h with ⟨outer, hentry, rfl | ⟨fields, hfields, hinner⟩⟩ | hrest
    · exact reaches_of_refersTo (refersTo_cons_iff.2 (Or.inl hentry))
    · exact reaches_of_inner (refersTo_cons_iff.2 (Or.inl hentry)) hfields hinner
    · obtain ⟨first, hfirst, hsteps⟩ := hrest
      exact ⟨first, refersTo_cons_iff.2 (Or.inr hfirst), hsteps⟩

/-! ## Inlining one row -/

section

variable {model : ModelName} {stack : List String} {fields : RawModel} {field : String} {row : Row}

theorem inlineInto_nil : partials.inlineInto model stack fields [] = .ok fields := by
  rw [inlineInto]

/-- A row that stands for itself is written. -/
theorem inlineInto_cons_of_none (plain : partialName? field = none) :
    partials.inlineInto model stack fields ((field, row) :: rows) =
      partials.inlineInto model stack (fields.insert field row) rows := by
  rw [inlineInto, plain]

/-- A partial that is being inlined is not entered again. -/
theorem inlineInto_cons_of_mem {name : String} (stands : partialName? field = some name)
    (entered : name ∈ stack) :
    partials.inlineInto model stack fields ((field, row) :: rows) =
      .error (.partialCycle name stack model) := by
  rw [inlineInto, stands]
  exact dif_pos entered

/-- A partial that is not there stops inlining. -/
theorem inlineInto_cons_of_unknown {name : String} (stands : partialName? field = some name)
    (fresh : name ∉ stack) (unknown : partials.get? name = none) :
    partials.inlineInto model stack fields ((field, row) :: rows) =
      .error (.unresolvedPartial name model) := by
  rw [inlineInto, stands]
  simp only [dif_neg fresh]
  split
  · rfl
  · next inner hknown => rw [unknown] at hknown; contradiction

/-- Any other partial is inlined before the rows that follow. -/
theorem inlineInto_cons_of_known {name : String} {inner : RawModel}
    (stands : partialName? field = some name) (fresh : name ∉ stack)
    (known : partials.get? name = some inner) :
    partials.inlineInto model stack fields ((field, row) :: rows) =
      partials.inlineInto model (stack ++ [name]) fields inner.entries >>= fun fields =>
        partials.inlineInto model stack fields rows := by
  rw [inlineInto, stands]
  simp only [dif_neg fresh]
  split
  · next hunknown => rw [known] at hunknown; contradiction
  · next inner' hknown =>
    rw [known, Option.some.injEq] at hknown
    subst hknown
    cases partials.inlineInto model (stack ++ [name]) fields inner.entries with
    | error error => rfl
    | ok fields => rfl

end

/-! ## When inlining fails -/

/-- The partials being inlined include everything that the rows at hand refer to. -/
def Encloses (partials : Partials) (stack : List String) (rows : List (String × Row)) : Prop :=
  ∀ outer ∈ stack, ∀ inner, RefersTo rows inner → Relation.TransGen partials.Includes outer inner

/-- What a partial refers to is included by it and by all that encloses it. -/
theorem Encloses.enter {stack : List String} {name : String} {fields : RawModel}
    (encloses : partials.Encloses stack rows) (refers : RefersTo rows name)
    (known : partials.get? name = some fields) :
    partials.Encloses (stack ++ [name]) fields.entries := by
  intro outer houter inner hinner
  have hstep : partials.Includes name inner := ⟨fields, known, hinner⟩
  rcases List.mem_append.1 houter with hmem | hlast
  · exact (encloses outer hmem name refers).tail hstep
  · rw [List.mem_singleton.1 hlast]
    exact Relation.TransGen.single hstep

theorem Encloses.rest {stack : List String} {entry : String × Row}
    (encloses : partials.Encloses stack (entry :: rows)) : partials.Encloses stack rows :=
  fun outer houter inner hinner =>
    encloses outer houter inner (refersTo_cons_iff.2 (Or.inr hinner))

/-- Why the partials that some rows reach cannot be inlined into a model. -/
inductive Fault (partials : Partials) (model : ModelName) (rows : List (String × Row)) :
    Error → Prop
  /-- The rows reach a partial that does not exist. -/
  | unresolved {name : String} (reached : partials.Reaches rows name)
      (unknown : name ∉ partials.keys) : Fault partials model rows (.unresolvedPartial name model)
  /-- The rows reach a partial that includes itself. -/
  | circular {name : String} {via : List String} (reached : partials.Reaches rows name)
      (circular : partials.Circular name) (entered : name ∈ via) :
      Fault partials model rows (.partialCycle name via model)

/-- A fault inside a partial is one of the rows that use it. -/
theorem Fault.of_inner {model : ModelName} {outer : String} {fields : RawModel} {error : Error}
    (refers : RefersTo rows outer) (known : partials.get? outer = some fields)
    (inner : partials.Fault model fields.entries error) : partials.Fault model rows error := by
  cases inner with
  | unresolved reached unknown => exact .unresolved (reaches_of_inner refers known reached) unknown
  | circular reached circular entered =>
    exact .circular (reaches_of_inner refers known reached) circular entered

/-- A fault further down is one of the whole. -/
theorem Fault.of_rest {model : ModelName} {entry : String × Row} {error : Error}
    (rest : partials.Fault model rows error) : partials.Fault model (entry :: rows) error := by
  cases rest with
  | unresolved reached unknown => exact .unresolved (reaches_cons_iff.2 (Or.inr reached)) unknown
  | circular reached circular entered =>
    exact .circular (reaches_cons_iff.2 (Or.inr reached)) circular entered

/-- An error of inlining names a partial that is reached and is unknown or circular. -/
theorem fault_of_inlineInto {model : ModelName} {stack : List String} {fields : RawModel}
    {error : Error} (encloses : partials.Encloses stack rows)
    (failed : partials.inlineInto model stack fields rows = .error error) :
    partials.Fault model rows error := by
  induction stack, fields, rows using inlineInto.induct partials model generalizing error with
  | case1 stack fields =>
    rw [inlineInto_nil] at failed
    contradiction
  | case2 stack fields field row rest plain ih =>
    rw [inlineInto_cons_of_none plain] at failed
    exact (ih encloses.rest failed).of_rest
  | case3 stack fields field row rest name stands entered =>
    rw [inlineInto_cons_of_mem stands entered, Except.error.injEq] at failed
    subst failed
    have hrefers : RefersTo ((field, row) :: rest) name := refersTo_cons_iff.2 (Or.inl stands)
    exact .circular (reaches_of_refersTo hrefers) (encloses name entered name hrefers) entered
  | case4 stack fields field row rest name stands fresh unknown =>
    rw [inlineInto_cons_of_unknown stands fresh unknown, Except.error.injEq] at failed
    subst failed
    exact .unresolved (reaches_of_refersTo (refersTo_cons_iff.2 (Or.inl stands)))
      (OrderedMap.get?_eq_none_iff.1 unknown)
  | case5 stack fields field row rest name stands fresh inner known innerError hinner ih =>
    rw [inlineInto_cons_of_known stands fresh known, hinner] at failed
    have herror : innerError = error := by simpa [bind, Except.bind] using failed
    subst herror
    have hrefers : RefersTo ((field, row) :: rest) name := refersTo_cons_iff.2 (Or.inl stands)
    exact (ih (encloses.enter hrefers known) hinner).of_inner hrefers known
  | case6 stack fields field row rest name stands fresh inner known fields' hinner _ ih =>
    rw [inlineInto_cons_of_known stands fresh known, hinner] at failed
    exact (ih encloses.rest failed).of_rest

/-- A partial that its own fields do not reach does not include itself. -/
theorem not_circular_of_not_reaches {name : String} {fields : RawModel}
    (known : partials.get? name = some fields) (apart : ¬ partials.Reaches fields.entries name) :
    ¬ partials.Circular name := by
  intro hcircular
  obtain ⟨next, ⟨fields', hfields, hrefers⟩, hsteps⟩ := Relation.TransGen.head'_iff.1 hcircular
  rw [known, Option.some.injEq] at hfields
  subst hfields
  exact apart ⟨next, hrefers, hsteps⟩

/-- Where inlining succeeds, everything that is reached exists, was not entered before, and does not
include itself. -/
theorem sound_of_inlineInto {model : ModelName} {stack : List String} {fields result : RawModel}
    (done : partials.inlineInto model stack fields rows = .ok result) {name : String}
    (reached : partials.Reaches rows name) :
    name ∈ partials.keys ∧ name ∉ stack ∧ ¬ partials.Circular name := by
  induction stack, fields, rows using inlineInto.induct partials model generalizing name result with
  | case1 stack fields => exact absurd reached not_reaches_nil
  | case2 stack fields field row rest plain ih =>
    rw [inlineInto_cons_of_none plain] at done
    rcases reaches_cons_iff.1 reached with ⟨outer, houter, -⟩ | hrest
    · rw [plain] at houter
      contradiction
    · exact ih done hrest
  | case3 stack fields field row rest outer stands entered =>
    rw [inlineInto_cons_of_mem stands entered] at done
    contradiction
  | case4 stack fields field row rest outer stands fresh unknown =>
    rw [inlineInto_cons_of_unknown stands fresh unknown] at done
    contradiction
  | case5 stack fields field row rest outer stands fresh inner known error hinner =>
    rw [inlineInto_cons_of_known stands fresh known, hinner] at done
    simp [bind, Except.bind] at done
  | case6 stack fields field row rest outer stands fresh inner known fields' hinner ih ihrest =>
    rw [inlineInto_cons_of_known stands fresh known, hinner] at done
    have hinside : ∀ {name}, partials.Reaches inner.entries name →
        name ∈ partials.keys ∧ name ∉ stack ++ [outer] ∧ ¬ partials.Circular name := ih hinner
    rcases reaches_cons_iff.1 reached with ⟨first, hfirst, hname⟩ | hrest
    · rw [stands, Option.some.injEq] at hfirst
      subst hfirst
      rcases hname with rfl | ⟨fields, hfields, hreached⟩
      · -- in its own fields the partial counts as entered
        have happart : ¬ partials.Reaches inner.entries name := fun hback =>
          (hinside hback).2.1 (List.mem_append_right _ (List.mem_singleton_self _))
        exact ⟨OrderedMap.mem_keys_of_get? known, fresh,
          not_circular_of_not_reaches known happart⟩
      · rw [known, Option.some.injEq] at hfields
        subst hfields
        obtain ⟨hknown, hfresh, hacyclic⟩ := hinside hreached
        exact ⟨hknown, fun hmem => hfresh (List.mem_append_left _ hmem), hacyclic⟩
    · exact ihrest done hrest

/-- Inlining a model fails exactly if its rows reach an unknown or a circular partial. -/
theorem inlineModel_failsExactly (partials : Partials) (model : ModelName) (rows : RawModel) :
    FailsExactly (partials.inlineModel model rows) (partials.Fault model rows.entries) where
  fault error hfailed := by
    refine fault_of_inlineInto ?_ hfailed
    intro outer houter
    simp at houter
  sound result hdone error hfault := by
    cases hfault with
    | unresolved reached unknown => exact unknown (sound_of_inlineInto hdone reached).1
    | circular reached circular _ => exact (sound_of_inlineInto hdone reached).2.2 circular

/-! ## What inlining depends on -/

/-- Inlining looks at no partial but those that are reached. -/
theorem inlineInto_congr {others : Partials} {model : ModelName} {stack : List String}
    {fields : RawModel}
    (agree : ∀ name, partials.Reaches rows name → others.get? name = partials.get? name) :
    others.inlineInto model stack fields rows = partials.inlineInto model stack fields rows := by
  induction stack, fields, rows using inlineInto.induct partials model with
  | case1 stack fields => rw [inlineInto_nil, inlineInto_nil]
  | case2 stack fields field row rest plain ih =>
    rw [inlineInto_cons_of_none plain, inlineInto_cons_of_none plain]
    exact ih fun name hname => agree name (reaches_cons_iff.2 (Or.inr hname))
  | case3 stack fields field row rest outer stands entered =>
    rw [inlineInto_cons_of_mem stands entered, inlineInto_cons_of_mem stands entered]
  | case4 stack fields field row rest outer stands fresh unknown =>
    have hreached : partials.Reaches ((field, row) :: rest) outer :=
      reaches_of_refersTo (refersTo_cons_iff.2 (Or.inl stands))
    rw [inlineInto_cons_of_unknown stands fresh unknown,
      inlineInto_cons_of_unknown stands fresh ((agree outer hreached).trans unknown)]
  | case5 stack fields field row rest outer stands fresh inner known error hinner ih =>
    have hrefers : RefersTo ((field, row) :: rest) outer := refersTo_cons_iff.2 (Or.inl stands)
    have hknown : others.get? outer = some inner :=
      (agree outer (reaches_of_refersTo hrefers)).trans known
    rw [inlineInto_cons_of_known stands fresh known, inlineInto_cons_of_known stands fresh hknown,
      ih fun name hname => agree name (reaches_of_inner hrefers known hname), hinner]
    rfl
  | case6 stack fields field row rest outer stands fresh inner known fields' hinner ih ihrest =>
    have hrefers : RefersTo ((field, row) :: rest) outer := refersTo_cons_iff.2 (Or.inl stands)
    have hknown : others.get? outer = some inner :=
      (agree outer (reaches_of_refersTo hrefers)).trans known
    rw [inlineInto_cons_of_known stands fresh known, inlineInto_cons_of_known stands fresh hknown,
      ih fun name hname => agree name (reaches_of_inner hrefers known hname), hinner]
    exact ihrest fun name hname => agree name (reaches_cons_iff.2 (Or.inr hname))

/-! ## Schemas without references -/

/-- Rows that name no partials are written as they are. -/
theorem inlineInto_of_plain {model : ModelName} {stack : List String} {fields : RawModel}
    (plain : ∀ entry ∈ rows, partialName? entry.1 = none) :
    partials.inlineInto model stack fields rows =
      .ok (rows.foldl (fun fields entry => fields.insert entry.1 entry.2) fields) := by
  induction rows generalizing fields with
  | nil => exact inlineInto_nil
  | cons entry rest ih =>
    rw [inlineInto_cons_of_none (plain entry List.mem_cons_self)]
    exact ih fun other hother => plain other (List.mem_cons_of_mem _ hother)

/-- Inlining keeps a schema none of whose fields stands for a partial. -/
theorem inlineSchema_of_plain {schema : RawSchema}
    (plain : ∀ package ∈ schema.entries, ∀ model ∈ package.2.entries, ∀ row ∈ model.2.entries,
      partialName? row.1 = none) :
    partials.inlineSchema schema = .ok schema := by
  refine OrderedMap.traverse_of_fixed fun package hpackage => ?_
  refine OrderedMap.traverse_of_fixed fun model hmodel => ?_
  have hrows : partials.inlineInto ⟨package.1, model.1⟩ [] .empty model.2.entries =
      .ok (.ofList model.2.entries) := inlineInto_of_plain (plain package hpackage model hmodel)
  rw [OrderedMap.ofList_entries] at hrows
  exact hrows

end Partials

end SheetSchema
