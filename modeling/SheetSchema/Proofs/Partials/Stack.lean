import Mathlib.Data.List.Perm.Subperm
import SheetSchema.Proofs.Partials.Reach

/-!
# The stack of partials

Inlining as it works on one stack: a partial is pushed before its fields are inlined in a nested
call, and popped when the call returns. Here calls also keep a record of the stack and nest no
deeper than a given bound. With a level for every partial and one for the model, the bound is never
met, however the partials include each other: a partial is pushed only if it exists and is not on
the stack, so the stack holds distinct partials.
-/

namespace SheetSchema.Partials

variable {partials : Partials} {model : ModelName}

/-! ## Inlining on one stack -/

/-- Why inlining stops before the last row. -/
inductive Stop where
  | fault (error : Error)
  /-- A call would nest deeper than the bound. -/
  | tooDeep

/-- Inlining at some moment. -/
structure Inlining where
  /-- Partials being inlined, outermost first. -/
  stack : List String
  /-- Fields written so far. -/
  fields : RawModel
  /-- The stack at the beginning of every call so far. -/
  calls : List (List String)
  /-- The stack at the beginning and at the end of every call that has returned. -/
  returns : List (List String × List String)

namespace Inlining

/-- Before the call for a model. -/
def start : Inlining := ⟨[], .empty, [], []⟩

def push (inlining : Inlining) (name : String) : Inlining :=
  { inlining with stack := inlining.stack ++ [name] }

def pop (inlining : Inlining) : Inlining :=
  { inlining with stack := inlining.stack.dropLast }

def write (inlining : Inlining) (field : String) (row : Row) : Inlining :=
  { inlining with fields := inlining.fields.insert field row }

/-- Record that a call begins. -/
def begin (inlining : Inlining) : Inlining :=
  { inlining with calls := inlining.calls ++ [inlining.stack] }

/-- Record that a call returns that began with `stack`. -/
def finish (inlining : Inlining) (stack : List String) : Inlining :=
  { inlining with returns := inlining.returns ++ [(stack, inlining.stack)] }

end Inlining

/-- Inline rows one after another. The rows of a partial are left to `call`. -/
def inlineRows (partials : Partials) (model : ModelName)
    (call : List (String × Row) → Inlining → Inlining × Option Stop) :
    List (String × Row) → Inlining → Inlining × Option Stop
  | [], inlining => (inlining, none)
  | (field, row) :: rest, inlining =>
    match partialName? field with
    | none => inlineRows partials model call rest (inlining.write field row)
    | some name =>
      if name ∈ inlining.stack then
        (inlining, some (.fault (.partialCycle name inlining.stack model)))
      else
        match partials.get? name with
        | none => (inlining, some (.fault (.unresolvedPartial name model)))
        | some inner =>
          match call inner.entries (inlining.push name) with
          | (inlining, some stop) => (inlining, some stop)
          | (inlining, none) => inlineRows partials model call rest inlining.pop

/-- A call, with room for as many levels of calls as `depth`, itself included. -/
def inlineWithin (partials : Partials) (model : ModelName) :
    Nat → List (String × Row) → Inlining → Inlining × Option Stop
  | 0, _, inlining => (inlining, some .tooDeep)
  | depth + 1, rows, inlining =>
    match inlineRows partials model (inlineWithin partials model depth) rows inlining.begin with
    | (after, some stop) => (after, some stop)
    | (after, none) => (after.finish inlining.stack, none)

/-- What inlining comes to, unless it met the bound. -/
def outcome? : Inlining × Option Stop → Option (Except Error RawModel)
  | (inlining, none) => some (.ok inlining.fields)
  | (_, some (.fault error)) => some (.error error)
  | (_, some .tooDeep) => none

/-! ## Stacks -/

/-- A stack that results when further partials are pushed on `base`. -/
def Above (partials : Partials) (base stack : List String) : Prop :=
  ∃ pushed, stack = base ++ pushed ∧ pushed.Nodup ∧ ∀ name ∈ pushed, name ∈ partials.keys ∧
    name ∉ base

theorem Above.refl (base : List String) : partials.Above base base :=
  ⟨[], (List.append_nil base).symm, List.nodup_nil, by simp⟩

theorem Above.of_push {base stack : List String} {name : String} (known : name ∈ partials.keys)
    (fresh : name ∉ base) (above : partials.Above (base ++ [name]) stack) :
    partials.Above base stack := by
  obtain ⟨pushed, rfl, hnodup, hpushed⟩ := above
  refine ⟨name :: pushed, by simp, List.nodup_cons.2 ⟨fun hmem => ?_, hnodup⟩, ?_⟩
  · exact (hpushed name hmem).2 (by simp)
  · intro other hother
    rcases List.mem_cons.1 hother with rfl | hmem
    · exact ⟨known, fresh⟩
    · obtain ⟨hknown, hfresh⟩ := hpushed other hmem
      exact ⟨hknown, fun hbase => hfresh (List.mem_append_left _ hbase)⟩

/-- Distinct partials are at most as many as there are. -/
theorem length_le_size {stack : List String} (nodup : stack.Nodup)
    (known : ∀ name ∈ stack, name ∈ partials.keys) : stack.length ≤ partials.size := by
  have hle := (List.subperm_of_subset nodup fun name hname => known name hname).length_le
  rwa [OrderedMap.keys, List.length_map] at hle

theorem length_outside_le (partials : Partials) (stack : List String) :
    (partials.outside stack).length ≤ partials.size := by
  have hle : (partials.outside stack).length ≤ partials.keys.length := List.length_filter_le _ _
  rwa [OrderedMap.keys, List.length_map] at hle

/-! ## What a call does -/

/-- What inlining of rows comes to, with the bound not met: it is what the rows inline to, the
stack is left as it was, and the same holds of the calls on the way. -/
structure Settles (partials : Partials) (model : ModelName) (rows : List (String × Row))
    (before : Inlining) (result : Inlining × Option Stop) : Prop where
  outcome : outcome? result = some (partials.inlineInto model before.stack before.fields rows)
  stack : result.2 = none → result.1.stack = before.stack
  calls : ∀ stack ∈ result.1.calls, stack ∈ before.calls ∨ partials.Above before.stack stack
  returns : ∀ call ∈ result.1.returns, call ∈ before.returns ∨ call.1 = call.2
  returned : result.2 = none →
    result.1.calls.length + before.returns.length = before.calls.length + result.1.returns.length

/-- What stops the fields of a partial stops the rows after it as well. -/
theorem outcome?_bind_of_stop {inlining : Inlining} {stop : Stop} {result : Except Error RawModel}
    {next : RawModel → Except Error RawModel}
    (stopped : outcome? (inlining, some stop) = some result) :
    outcome? (inlining, some stop) = some (result >>= next) := by
  cases stop with
  | tooDeep => simp [outcome?] at stopped
  | fault error =>
    rw [outcome?, Option.some.injEq] at stopped
    subst stopped
    rfl

theorem settles_of_fault {rows : List (String × Row)} {before : Inlining} {error : Error}
    (fails : partials.inlineInto model before.stack before.fields rows = .error error) :
    partials.Settles model rows before (before, some (.fault error)) where
  outcome := by rw [fails]; rfl
  stack := by simp
  calls := fun _ => Or.inl
  returns := fun _ => Or.inl
  returned := by simp

section

variable {field name : String} {row : Row} {rest : List (String × Row)} {inner : RawModel}
  {before after : Inlining}

/-- Calls inside a pushed partial have a stack above the one on which it was pushed. -/
theorem Settles.calls_of_push {stop? : Option Stop} (known : name ∈ partials.keys)
    (fresh : name ∉ before.stack)
    (inside : partials.Settles model inner.entries (before.push name) (after, stop?))
    {stack : List String} (called : stack ∈ after.calls) :
    stack ∈ before.calls ∨ partials.Above before.stack stack :=
  (inside.calls stack called).imp_right (Above.of_push known fresh)

/-- Inlining that stops in the fields of a partial stops with it. -/
theorem Settles.of_inner_stop {stop : Stop} (stands : partialName? field = some name)
    (fresh : name ∉ before.stack) (known : partials.get? name = some inner)
    (inside : partials.Settles model inner.entries (before.push name) (after, some stop)) :
    partials.Settles model ((field, row) :: rest) before (after, some stop) where
  outcome := by
    rw [inlineInto_cons_of_known stands fresh known]
    exact outcome?_bind_of_stop inside.outcome
  stack := by simp
  calls := fun _ => inside.calls_of_push (OrderedMap.mem_keys_of_get? known) fresh
  returns := inside.returns
  returned := by simp

/-- Popping leaves the stack on which the partial was pushed. -/
theorem Settles.stack_pop
    (inside : partials.Settles model inner.entries (before.push name) (after, none)) :
    after.pop.stack = before.stack := by
  rw [Inlining.pop, inside.stack rfl, Inlining.push, List.dropLast_concat]

/-- When the fields of a partial are written, the rows after it follow on the popped stack. -/
theorem Settles.of_inner_done {result : Inlining × Option Stop}
    (stands : partialName? field = some name) (fresh : name ∉ before.stack)
    (known : partials.get? name = some inner)
    (inside : partials.Settles model inner.entries (before.push name) (after, none))
    (later : partials.Settles model rest after.pop result) :
    partials.Settles model ((field, row) :: rest) before result where
  outcome := by
    have hfields : partials.inlineInto model (before.stack ++ [name]) before.fields
        inner.entries = .ok after.fields := (Option.some.inj inside.outcome).symm
    rw [inlineInto_cons_of_known stands fresh known, hfields, ← inside.stack_pop]
    exact later.outcome
  stack := fun hdone => (later.stack hdone).trans inside.stack_pop
  calls := fun stack hstack => by
    rcases later.calls stack hstack with hmem | habove
    · exact inside.calls_of_push (OrderedMap.mem_keys_of_get? known) fresh hmem
    · exact Or.inr (inside.stack_pop ▸ habove)
  returns := fun call hcall => (later.returns call hcall).elim (inside.returns call) Or.inr
  returned := fun hdone => by
    have hinside : after.calls.length + before.returns.length =
        before.calls.length + after.returns.length := inside.returned rfl
    have hlater : result.1.calls.length + after.returns.length =
        after.calls.length + result.1.returns.length := later.returned hdone
    omega

end

/-- Rows settle where the partials among them do, with fewer partials left outside the stack. -/
theorem settles_inlineRows {call : List (String × Row) → Inlining → Inlining × Option Stop}
    {depth : Nat}
    (deeper : ∀ rows next, (partials.outside next.stack).length < depth →
      partials.Settles model rows next (call rows next))
    (rows : List (String × Row)) {before : Inlining}
    (room : (partials.outside before.stack).length ≤ depth) :
    partials.Settles model rows before (partials.inlineRows model call rows before) := by
  induction rows generalizing before with
  | nil =>
    exact {
      outcome := by rw [inlineInto_nil]; rfl
      stack := fun _ => rfl
      calls := fun _ => Or.inl
      returns := fun _ => Or.inl
      returned := fun _ => rfl }
  | cons entry rest ih =>
    obtain ⟨field, row⟩ := entry
    rw [inlineRows]
    cases stands : partialName? field with
    | none =>
      have hrest : partials.Settles model rest (before.write field row)
          (partials.inlineRows model call rest (before.write field row)) := ih room
      exact { hrest with outcome := by rw [inlineInto_cons_of_none stands]; exact hrest.outcome }
    | some name =>
      by_cases entered : name ∈ before.stack
      · simp only [if_pos entered]
        exact settles_of_fault (inlineInto_cons_of_mem stands entered)
      · simp only [if_neg entered]
        cases known : partials.get? name with
        | none => exact settles_of_fault (inlineInto_cons_of_unknown stands entered known)
        | some inner =>
          have hfewer := length_outside_lt (OrderedMap.mem_keys_of_get? known) entered
          have hinside := deeper inner.entries (before.push name) (Nat.lt_of_lt_of_le hfewer room)
          cases hcall : call inner.entries (before.push name) with
          | mk after stop? =>
            rw [hcall] at hinside
            cases stop? with
            | some stop =>
              simp only [hcall]
              exact .of_inner_stop stands entered known hinside
            | none =>
              simp only [hcall]
              exact .of_inner_done stands entered known hinside (ih (hinside.stack_pop ▸ room))

/-- Calls settle that have room for every partial outside the stack. -/
theorem settles_inlineWithin (depth : Nat) (rows : List (String × Row)) {before : Inlining}
    (room : (partials.outside before.stack).length < depth) :
    partials.Settles model rows before (partials.inlineWithin model depth rows before) := by
  induction depth generalizing rows before with
  | zero => exact absurd room (Nat.not_lt_zero _)
  | succ depth ih =>
    have hrows : partials.Settles model rows before.begin (partials.inlineRows model
        (partials.inlineWithin model depth) rows before.begin) :=
      settles_inlineRows (fun rows next => ih rows) rows (Nat.le_of_lt_succ room)
    rw [inlineWithin]
    cases hresult : partials.inlineRows model (partials.inlineWithin model depth) rows
        before.begin with
    | mk after stop? =>
      rw [hresult] at hrows
      -- the stack with which the call begins is recorded too
      have hcalls : ∀ stack ∈ after.calls, stack ∈ before.calls ∨
          partials.Above before.stack stack := by
        intro stack hstack
        rcases hrows.calls stack hstack with hmem | habove
        · rcases List.mem_append.1 hmem with hearlier | hthis
          · exact Or.inl hearlier
          · exact Or.inr (List.mem_singleton.1 hthis ▸ Above.refl _)
        · exact Or.inr habove
      cases stop? with
      | some stop => exact { hrows with calls := hcalls, returned := by simp }
      | none =>
        exact { hrows with
          calls := hcalls
          returns := fun call hcall => by
            rcases List.mem_append.1 hcall with hearlier | hthis
            · exact hrows.returns call hearlier
            · rw [List.mem_singleton.1 hthis]
              exact Or.inr (hrows.stack rfl).symm
          returned := fun _ => by
            have hnested := hrows.returned rfl
            simp only [Inlining.begin, Inlining.finish, List.length_append, List.length_singleton]
              at hnested ⊢
            omega }

/-! ## Inlining a model -/

/-- A run from the empty stack, however it ends. -/
structure Balanced (partials : Partials) (run : Inlining × Option Stop) : Prop where
  /-- No partial is twice on the stack of a call. -/
  nodup : ∀ stack ∈ run.1.calls, stack.Nodup
  /-- What is on the stack of a call exists. -/
  known : ∀ stack ∈ run.1.calls, ∀ name ∈ stack, name ∈ partials.keys
  /-- Calls nest at most as deep as there are partials. -/
  length_le : ∀ stack ∈ run.1.calls, stack.length ≤ partials.size
  /-- A call that returns leaves the stack as it was. -/
  restored : ∀ call ∈ run.1.returns, call.1 = call.2
  /-- If inlining succeeds, as many calls have returned as began. -/
  returned : run.2 = none → run.1.returns.length = run.1.calls.length
  stack_nil : run.2 = none → run.1.stack = []

theorem Settles.balanced {rows : List (String × Row)} {run : Inlining × Option Stop}
    (settles : partials.Settles model rows .start run) : partials.Balanced run := by
  have habove : ∀ stack ∈ run.1.calls, stack.Nodup ∧ ∀ name ∈ stack, name ∈ partials.keys := by
    intro stack hstack
    rcases settles.calls stack hstack with hmem | ⟨pushed, rfl, hnodup, hpushed⟩
    · simp [Inlining.start] at hmem
    · exact ⟨hnodup, fun name hname => (hpushed name hname).1⟩
  exact {
    nodup := fun stack hstack => (habove stack hstack).1
    known := fun stack hstack => (habove stack hstack).2
    length_le := fun stack hstack => length_le_size (habove stack hstack).1 (habove stack hstack).2
    restored := fun call hcall =>
      (settles.returns call hcall).resolve_left (by simp [Inlining.start])
    returned := fun hdone => by simpa [Inlining.start] using (settles.returned hdone).symm
    stack_nil := settles.stack }

/-- However the partials include each other, calls that may nest one level deeper than there are
partials, or more, do not meet the bound and come to what the model inlines to. On the way every
stack holds distinct partials, and every call that returns leaves it as it was. -/
theorem inlines_on_bounded_stack (partials : Partials) (model : ModelName) (rows : RawModel)
    (more : Nat) :
    outcome? (partials.inlineWithin model (partials.size + 1 + more) rows.entries .start) =
      some (partials.inlineModel model rows) ∧
    partials.Balanced
      (partials.inlineWithin model (partials.size + 1 + more) rows.entries .start) := by
  have hroom : (partials.outside Inlining.start.stack).length < partials.size + 1 + more := by
    have hle := length_outside_le partials Inlining.start.stack
    omega
  have hsettles : partials.Settles model rows.entries .start _ :=
    settles_inlineWithin _ rows.entries hroom
  exact ⟨hsettles.outcome, hsettles.balanced⟩

/-- Of two partials that include each other, each is entered once. -/
example :
    let partials : Partials :=
      .ofList [("A", .ofList [("partials.B", .empty)]), ("B", .ofList [("partials.A", .empty)])]
    (partials.inlineWithin ⟨"blog", "Post"⟩ 3 [("partials.A", .empty)] .start).1.calls =
      [[], ["A"], ["A", "B"]] := by decide

end SheetSchema.Partials
