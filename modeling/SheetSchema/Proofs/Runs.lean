import Mathlib.Data.List.Basic

/-!
# Runs of fallible steps

Reading and checking go through a list step by step and stop at the first error. What one step
preserves, a whole run preserves, and a run fails for the faults of its steps.
-/

namespace SheetSchema

variable {α β σ ε : Type}

/-- A successful sequence of two computations, taken apart. -/
theorem bind_eq_ok_iff {first : Except ε α} {second : α → Except ε β} {result : β} :
    (first >>= second) = .ok result ↔ ∃ value, first = .ok value ∧ second value = .ok result := by
  cases first with
  | error e => simp [bind, Except.bind]
  | ok value => simp [bind, Except.bind]

/-- A failing sequence of two computations fails in one of them. -/
theorem bind_eq_error_iff {first : Except ε α} {second : α → Except ε β} {error : ε} :
    (first >>= second) = .error error ↔
      first = .error error ∨ ∃ value, first = .ok value ∧ second value = .error error := by
  cases first with
  | error e => simp [bind, Except.bind]
  | ok value => simp [bind, Except.bind]

theorem map_eq_ok_iff {first : Except ε α} {f : α → β} {result : β} :
    first.map f = .ok result ↔ ∃ value, first = .ok value ∧ f value = result := by
  cases first with
  | error e => simp [Except.map]
  | ok value => simp [Except.map]

/-- A test for success that can be evaluated gives a result to reason about. -/
theorem exists_of_isOk {first : Except ε α} (succeeds : first.isOk = true) :
    ∃ value, first = .ok value := by
  cases first with
  | error e => simp [Except.isOk, Except.toBool] at succeeds
  | ok value => exact ⟨value, rfl⟩

theorem eq_ok_of_isOk {first : Except ε α} (succeeds : first.isOk = true) (default : α) :
    first = .ok (first.toOption.getD default) := by
  obtain ⟨value, rfl⟩ := exists_of_isOk succeeds
  rfl

/-- What every step keeps, a run keeps. -/
theorem invariant_of_foldlM {step : σ → α → Except ε σ} (Holds : σ → Prop) {items : List α}
    (keeps : ∀ item ∈ items, ∀ state next, Holds state → step state item = .ok next → Holds next)
    {state final : σ} (start : Holds state) (run : items.foldlM step state = .ok final) :
    Holds final := by
  induction items generalizing state with
  | nil =>
    have hsame : state = final := by simpa [pure, Except.pure] using run
    exact hsame ▸ start
  | cons item rest ih =>
    rw [List.foldlM_cons, bind_eq_ok_iff] at run
    obtain ⟨next, hstep, hrest⟩ := run
    exact ih (fun other hother => keeps other (List.mem_cons_of_mem _ hother))
      (keeps item List.mem_cons_self state next start hstep) hrest

/-- A run that fails does so at one of its items, in the state that the items before it lead
to. -/
theorem exists_step_of_foldlM_eq_error {step : σ → α → Except ε σ} {items : List α} {state : σ}
    {error : ε} (failed : items.foldlM step state = .error error) :
    ∃ before item after reached, items = before ++ item :: after ∧
      before.foldlM step state = .ok reached ∧ step reached item = .error error := by
  induction items generalizing state with
  | nil => simp [pure, Except.pure] at failed
  | cons item rest ih =>
    rw [List.foldlM_cons, bind_eq_error_iff] at failed
    rcases failed with hitem | ⟨next, hnext, hrest⟩
    · exact ⟨[], item, rest, state, rfl, rfl, hitem⟩
    · obtain ⟨before, failing, after, reached, rfl, hrun, hstep⟩ := ih hrest
      refine ⟨item :: before, failing, after, reached, rfl, ?_, hstep⟩
      rw [List.foldlM_cons, bind_eq_ok_iff]
      exact ⟨next, hnext, hrun⟩

/-! ## Faults -/

/-- A computation fails exactly if there is a fault, and then with one. -/
structure FailsExactly (result : Except ε α) (Fault : ε → Prop) : Prop where
  fault : ∀ error, result = .error error → Fault error
  sound : ∀ value, result = .ok value → ∀ error, ¬ Fault error

namespace FailsExactly

variable {result : Except ε α} {Fault : ε → Prop}

/-- A computation whose faults are known succeeds exactly if there is none. -/
theorem exists_ok_iff (exactly : FailsExactly result Fault) :
    (∃ value, result = .ok value) ↔ ∀ error, ¬ Fault error := by
  constructor
  · intro h
    obtain ⟨value, hvalue⟩ := h
    exact exactly.sound value hvalue
  · intro hnone
    cases hresult : result with
    | error e => exact absurd (exactly.fault e hresult) (hnone e)
    | ok value => exact ⟨value, rfl⟩

/-- The faults of a computation may be said in other words. -/
theorem congr {Fault' : ε → Prop} (exactly : FailsExactly result Fault)
    (same : ∀ error, Fault error ↔ Fault' error) : FailsExactly result Fault' where
  fault error hresult := (same error).1 (exactly.fault error hresult)
  sound value hresult error hfault := exactly.sound value hresult error ((same error).2 hfault)

theorem of_ok {value : α} (none : ∀ error, ¬ Fault error) :
    FailsExactly (.ok value : Except ε α) Fault where
  fault error hresult := by contradiction
  sound _ _ := none

theorem ok (value : α) : FailsExactly (.ok value : Except ε α) fun _ => False :=
  of_ok fun _ => id

/-- A computation that fails outright has its error as a fault. -/
theorem of_error {error : ε} (fault : Fault error) :
    FailsExactly (.error error : Except ε α) Fault where
  fault other hresult := by
    rw [Except.error.injEq] at hresult
    exact hresult ▸ fault
  sound _ hresult := by contradiction

/-- A sequence of two computations fails for the faults of both. -/
theorem bind {second : α → Except ε β} {Fault' : ε → Prop} (first : FailsExactly result Fault)
    (next : ∀ value, FailsExactly (second value) Fault') :
    FailsExactly (result >>= second) fun error => Fault error ∨ Fault' error where
  fault error hfailed := by
    rcases bind_eq_error_iff.1 hfailed with hfirst | ⟨value, -, hnext⟩
    · exact Or.inl (first.fault error hfirst)
    · exact Or.inr ((next value).fault error hnext)
  sound final hdone error hfault := by
    obtain ⟨value, hfirst, hnext⟩ := bind_eq_ok_iff.1 hdone
    rcases hfault with hfault | hfault
    · exact first.sound value hfirst error hfault
    · exact (next value).sound final hnext error hfault

end FailsExactly

end SheetSchema
