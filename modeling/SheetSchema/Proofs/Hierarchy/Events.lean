import SheetSchema.Proofs.Hierarchy.Countdown

/-!
# Events of a topological order

What happens step by step while models are put out: a model becomes ready, it is taken from the
front, and the counts of its children go down. At every step a count is the number of parents that
are still to be put out. So no count goes down from zero, no model becomes ready twice, none is
taken that was put out already, and after a step for every listed model none is ready.
-/

namespace SheetSchema.Hierarchy

variable {graph : Hierarchy} {known : OrderedSet}

namespace Progress

/-! ## Events -/

/-- What happens while models are put out. -/
inductive Event where
  /-- A model comes to the end of the ready ones. -/
  | becomesReady (model : String)
  /-- A model is taken from the front of the ready ones. -/
  | taken (model : String)
  /-- A model that was taken is passed over, since it was put out already. -/
  | passedOver (model : String)
  /-- The count of a child goes down from `count`. -/
  | lowered (child : String) (count : Nat)

/-- The model that becomes ready. -/
def Event.ready? : Event → Option String
  | becomesReady model => some model
  | _ => none

/-- The model that is taken. -/
def Event.taken? : Event → Option String
  | taken model => some model
  | _ => none

/-- The event is in order: no model is passed over, and no count goes down from zero. -/
def Event.InOrder : Event → Prop
  | passedOver _ => False
  | lowered _ count => count ≠ 0
  | _ => True

/-- What happens when one child is counted down. -/
def releaseEvents (model : String) (progress : Progress) (child : String) : List Event :=
  if child = model then []
  else
    match progress.degrees.get? child with
    | none => []
    | some count =>
      .lowered child count :: if count - 1 = 0 then [.becomesReady child] else []

/-- What happens when children are counted down one after another. -/
def releaseAllEvents (model : String) : Progress → List String → List Event
  | _, [] => []
  | progress, child :: rest =>
    progress.releaseEvents model child ++ releaseAllEvents model (progress.release model child) rest

/-- What happens when a model that was taken is put out. -/
def putOutEvents (graph : Hierarchy) (model : String) (progress : Progress) : List Event :=
  if progress.sorted.contains model then [.passedOver model]
  else
    releaseAllEvents model { progress with sorted := progress.sorted.insert model }
      (graph.childrenOf model)

/-- What happens in some steps. -/
def runEvents (graph : Hierarchy) : Nat → Progress → List Event
  | 0, _ => []
  | steps + 1, progress =>
    match progress.ready with
    | [] => []
    | model :: ready =>
      .taken model :: (({ progress with ready } : Progress).putOutEvents graph model ++
        runEvents graph steps (({ progress with ready } : Progress).putOut graph model))

/-- What happens from the beginning: models without listed parents become ready, and then some
steps follow. -/
def eventsOf (graph : Hierarchy) (known : OrderedSet) (steps : Nat) : List Event :=
  (start graph known).ready.map .becomesReady ++ runEvents graph steps (start graph known)

/-! ## Counting down children -/

section

variable {progress : Progress} {model : String}

/-- Counting down one child adds to the ready models what becomes ready. -/
theorem ready_release_eq (progress : Progress) (model child : String) :
    (progress.release model child).ready =
      progress.ready ++ (progress.releaseEvents model child).filterMap Event.ready? := by
  unfold release releaseEvents
  by_cases hself : child = model
  · simp [hself]
  · rw [if_neg hself, if_neg hself]
    cases progress.degrees.get? child with
    | none => simp
    | some count =>
      by_cases hzero : count - 1 = 0 <;> simp [hzero, List.filterMap_cons, Event.ready?]

/-- Counting down all children adds to the ready models what becomes ready on the way. -/
theorem ready_foldl_release_eq (children : List String) (progress : Progress) (model : String) :
    (children.foldl (release model) progress).ready =
      progress.ready ++ (releaseAllEvents model progress children).filterMap Event.ready? := by
  induction children generalizing progress with
  | nil => simp [releaseAllEvents]
  | cons child rest ih =>
    rw [List.foldl_cons, ih, ready_release_eq, releaseAllEvents, List.filterMap_append,
      List.append_assoc]

/-- Nothing is taken or passed over while children are counted down, and each goes down once, from
the count that it had before all of them. -/
theorem mem_releaseAllEvents {children : List String} (nodup : children.Nodup) {event : Event}
    (happens : event ∈ releaseAllEvents model progress children) :
    ∃ child ∈ children, child ≠ model ∧ (event = .becomesReady child ∨
      ∃ count, event = .lowered child count ∧ progress.degrees.get? child = some count) := by
  induction children generalizing progress with
  | nil => simp [releaseAllEvents] at happens
  | cons child rest ih =>
    obtain ⟨hfresh, hrest⟩ := List.nodup_cons.1 nodup
    rcases List.mem_append.1 happens with hfirst | hlater
    · unfold releaseEvents at hfirst
      split at hfirst
      · simp at hfirst
      · next hself =>
        split at hfirst
        · simp at hfirst
        · next count hcount =>
          refine ⟨child, List.mem_cons_self, hself, ?_⟩
          rcases List.mem_cons.1 hfirst with rfl | hready
          · exact Or.inr ⟨count, rfl, hcount⟩
          · split at hready
            · exact Or.inl (List.mem_singleton.1 hready)
            · simp at hready
    · obtain ⟨other, hother, hself, hevent⟩ := ih hrest hlater
      refine ⟨other, List.mem_cons_of_mem _ hother, hself, ?_⟩
      -- the other child is not the one before it, whose count went down
      have hdiffer : ¬ (other = child ∧ other ≠ model) := fun h => hfresh (h.1 ▸ hother)
      rwa [get?_degrees_release, if_neg hdiffer] at hevent

end

/-! ## One step -/

section

variable {progress : Progress} {model : String} {ready : List String}

/-- Putting a model out adds to the ready models what becomes ready. -/
theorem ready_putOut_eq (graph : Hierarchy) (model : String) (progress : Progress) :
    (progress.putOut graph model).ready =
      progress.ready ++ (progress.putOutEvents graph model).filterMap Event.ready? := by
  by_cases hmem : model ∈ progress.sorted.items
  · have hcontains := OrderedSet.contains_iff.2 hmem
    rw [putOut, putOutEvents, if_pos hcontains, if_pos hcontains]
    simp [Event.ready?]
  · have hcontains : ¬ progress.sorted.contains model = true := OrderedSet.contains_iff.not.2 hmem
    rw [putOut_of_notMem graph hmem, ready_foldl_release_eq, putOutEvents, if_neg hcontains]

theorem filterMap_taken?_putOutEvents (graph : Hierarchy) (model : String) (progress : Progress) :
    (progress.putOutEvents graph model).filterMap Event.taken? = [] := by
  refine List.filterMap_eq_nil_iff.2 fun event happens => ?_
  unfold putOutEvents at happens
  split at happens
  · obtain rfl := List.mem_singleton.1 happens
    rfl
  · obtain ⟨child, -, -, rfl | ⟨count, rfl, -⟩⟩ :=
      mem_releaseAllEvents (nodup_childrenOf graph model) happens
    · rfl
    · rfl

/-- When the model at the front is put out, what happens is in order. -/
theorem Sound.inOrder_of_mem_putOutEvents (sound : progress.Sound graph known)
    (front : progress.ready = model :: ready) {event : Event}
    (happens : event ∈ ({ progress with ready } : Progress).putOutEvents graph model) :
    event.InOrder := by
  have hlisted : model ∈ known.items := sound.within.ready model (by simp [front])
  have hfresh := sound.fresh front
  rw [putOutEvents, if_neg (OrderedSet.contains_iff.not.2 hfresh)] at happens
  obtain ⟨child, hchild, hself, rfl | ⟨count, rfl, hcount⟩⟩ :=
    mem_releaseAllEvents (nodup_childrenOf graph model) happens
  · trivial
  · -- the model is among the parents that the count of its child counts
    have hknown : child ∈ known.items :=
      sound.within.degrees child (OrderedMap.mem_keys_of_get? hcount)
    have hwaits := (mem_awaited_iff_mem_childrenOf hlisted hfresh).2 ⟨hchild, hself⟩
    have hdegree : some count = some (graph.awaited known progress.sorted child).length :=
      hcount.symm.trans (sound.degrees child hknown)
    rw [Option.some.inj hdegree]
    exact (List.length_pos_of_mem hwaits).ne'

end

/-! ## Some steps -/

section

variable {progress : Progress} {model : String} {ready : List String}

theorem runEvents_of_ready_nil (steps : Nat) (idle : progress.ready = []) :
    runEvents graph steps progress = [] := by
  cases steps with
  | zero => rfl
  | succ steps =>
    rw [runEvents]
    simp only [idle]

/-- One step of a run takes the front and puts it out. -/
theorem runEvents_succ_of_ready_cons (steps : Nat) (front : progress.ready = model :: ready) :
    runEvents graph (steps + 1) progress =
      .taken model :: (({ progress with ready } : Progress).putOutEvents graph model ++
        runEvents graph steps (({ progress with ready } : Progress).putOut graph model)) := by
  rw [runEvents]
  simp only [front]

/-- What becomes ready is taken in the same order, as far as the steps lead. -/
theorem ready_append_runEvents (graph : Hierarchy) (steps : Nat) (progress : Progress) :
    progress.ready ++ (runEvents graph steps progress).filterMap Event.ready? =
      (runEvents graph steps progress).filterMap Event.taken? ++
        (run graph steps progress).ready := by
  induction steps generalizing progress with
  | zero => simp [runEvents, run]
  | succ steps ih =>
    cases hready : progress.ready with
    | nil => simp [runEvents_of_ready_nil _ hready, run_of_ready_nil _ hready, hready]
    | cons model ready =>
      have hnext := ih (({ progress with ready } : Progress).putOut graph model)
      rw [ready_putOut_eq, List.append_assoc] at hnext
      rw [runEvents_succ_of_ready_cons steps hready, run_succ_of_ready_cons steps hready]
      simp only [List.filterMap_cons, List.filterMap_append, Event.ready?, Event.taken?,
        filterMap_taken?_putOutEvents, List.nil_append, List.cons_append, hnext]

/-- What is taken is put out, in the same order. -/
theorem sorted_run (steps : Nat) (sound : progress.Sound graph known) :
    (run graph steps progress).sorted.items =
      progress.sorted.items ++ (runEvents graph steps progress).filterMap Event.taken? := by
  induction steps generalizing progress with
  | zero => simp [runEvents, run]
  | succ steps ih =>
    cases hready : progress.ready with
    | nil => simp [runEvents_of_ready_nil _ hready, run_of_ready_nil _ hready]
    | cons model ready =>
      rw [run_succ_of_ready_cons steps hready, ih (sound_putOut sound hready),
        (sound.items_putOut hready).1, runEvents_succ_of_ready_cons steps hready]
      simp only [List.filterMap_cons, List.filterMap_append, Event.taken?,
        filterMap_taken?_putOutEvents, List.nil_append, List.append_assoc, List.singleton_append]

/-- What happens in all steps is in order. -/
theorem Sound.inOrder_of_mem_runEvents (sound : progress.Sound graph known) {steps : Nat}
    {event : Event} (happens : event ∈ runEvents graph steps progress) : event.InOrder := by
  induction steps generalizing progress with
  | zero => simp [runEvents] at happens
  | succ steps ih =>
    cases hready : progress.ready with
    | nil => simp [runEvents_of_ready_nil _ hready] at happens
    | cons model ready =>
      rw [runEvents_succ_of_ready_cons steps hready, List.mem_cons, List.mem_append] at happens
      rcases happens with rfl | hstep | hlater
      · trivial
      · exact sound.inOrder_of_mem_putOutEvents hready hstep
      · exact ih (sound_putOut sound hready) hlater

end

/-! ## From the beginning -/

/-- Listed parents of a model, other than itself, that are still to be put out. -/
def unmetParents (graph : Hierarchy) (models : List String) (sorted : OrderedSet)
    (model : String) : List String :=
  models.eraseDups.filter fun parent =>
    parent ≠ model ∧ (parent, model) ∈ graph.edges ∧ parent ∉ sorted.items

/-- What holds after some steps, of the state they led to and of what happened. -/
structure CountsDown (graph : Hierarchy) (models : List String) (progress : Progress)
    (events : List Event) : Prop where
  /-- A count is the number of distinct listed parents that are still to be put out. -/
  degrees : ∀ model ∈ models, progress.degrees.get? model =
    some (unmetParents graph models progress.sorted model).length
  /-- No count goes down from zero. -/
  lowered : ∀ child count, .lowered child count ∈ events → count ≠ 0
  /-- What became ready was taken, in the same order, or is ready still. -/
  queue : events.filterMap Event.ready? = events.filterMap Event.taken? ++ progress.ready
  /-- What was taken was put out, in the same order. -/
  sorted : progress.sorted.items = events.filterMap Event.taken?
  /-- No model becomes ready twice. -/
  ready_once : (events.filterMap Event.ready?).Nodup
  /-- No model that is taken was put out already. -/
  never_passedOver : ∀ model, .passedOver model ∉ events
  /-- No more models are taken than there are distinct listed ones. -/
  taken_le : (events.filterMap Event.taken?).length ≤ models.eraseDups.length

/-- What is counted is the number of parents that are still unmet. -/
theorem length_awaited (graph : Hierarchy) (models : List String) (sorted : OrderedSet)
    (model : String) :
    (graph.awaited (.ofList models) sorted model).length =
      (unmetParents graph models sorted model).length := by
  refine List.Perm.length_eq ((List.perm_ext_iff_of_nodup (nodup_awaited graph _ sorted model)
    ((OrderedSet.nodup_eraseDups models).filter _)).2 fun parent => ?_)
  rw [mem_awaited_iff, List.mem_filter, OrderedSet.mem_ofList, List.mem_eraseDups,
    decide_eq_true_eq]
  tauto

/-- A run goes on where the steps before it led. -/
theorem run_add (graph : Hierarchy) (steps more : Nat) (progress : Progress) :
    run graph (steps + more) progress = run graph more (run graph steps progress) := by
  induction steps generalizing progress with
  | zero => rw [Nat.zero_add, run]
  | succ steps ih =>
    cases hready : progress.ready with
    | nil => rw [run_of_ready_nil _ hready, run_of_ready_nil _ hready, run_of_ready_nil _ hready]
    | cons model ready =>
      rw [Nat.add_right_comm, run_succ_of_ready_cons _ hready, run_succ_of_ready_cons _ hready, ih]

section

variable (graph : Hierarchy) (known : OrderedSet) (steps : Nat)

/-- The models without listed parents become ready before those that become ready in the steps. -/
theorem filterMap_ready?_eventsOf :
    (eventsOf graph known steps).filterMap Event.ready? = (start graph known).ready ++
      (runEvents graph steps (start graph known)).filterMap Event.ready? := by
  have hstart : Event.ready? ∘ Event.becomesReady = some := rfl
  rw [eventsOf, List.filterMap_append, List.filterMap_map, hstart, List.filterMap_some]

theorem filterMap_taken?_eventsOf :
    (eventsOf graph known steps).filterMap Event.taken? =
      (runEvents graph steps (start graph known)).filterMap Event.taken? := by
  have hstart : Event.taken? ∘ Event.becomesReady = fun _ => none := rfl
  rw [eventsOf, List.filterMap_append, List.filterMap_map, hstart, List.filterMap_none,
    List.nil_append]

theorem sorted_run_start :
    (run graph steps (start graph known)).sorted.items =
      (eventsOf graph known steps).filterMap Event.taken? := by
  rw [sorted_run steps (sound_start graph known), filterMap_taken?_eventsOf]
  exact List.nil_append _

/-- What becomes ready is what is taken and what still waits. -/
theorem filterMap_ready?_eq :
    (eventsOf graph known steps).filterMap Event.ready? =
      (eventsOf graph known steps).filterMap Event.taken? ++
        (run graph steps (start graph known)).ready := by
  rw [filterMap_ready?_eventsOf, ready_append_runEvents, filterMap_taken?_eventsOf]

/-- No event breaks the order, wherever in a run it happens. -/
theorem inOrder_of_mem_eventsOf {event : Event} (happens : event ∈ eventsOf graph known steps) :
    event.InOrder := by
  rcases List.mem_append.1 happens with hfirst | hlater
  · obtain ⟨model, -, rfl⟩ := List.mem_map.1 hfirst
    trivial
  · exact (sound_start graph known).inOrder_of_mem_runEvents hlater

end

/-- All parts together, for any number of steps. -/
theorem countsDown_run (graph : Hierarchy) (models : List String) (steps : Nat) :
    CountsDown graph models (run graph steps (start graph (.ofList models)))
      (eventsOf graph (.ofList models) steps) := by
  have hsound := sound_run steps (sound_start graph (.ofList models))
  have hqueue := filterMap_ready?_eq graph (.ofList models) steps
  have hsorted := sorted_run_start graph (.ofList models) steps
  exact {
    degrees := fun model hmodel => by
      rw [hsound.degrees model (OrderedSet.mem_ofList.2 hmodel), length_awaited]
    lowered := fun _ _ => inOrder_of_mem_eventsOf graph (.ofList models) steps
    queue := hqueue
    sorted := hsorted
    ready_once := by
      rw [hqueue, ← hsorted]
      exact hsound.nodup
    never_passedOver := fun _ => inOrder_of_mem_eventsOf graph (.ofList models) steps
    taken_le := by
      have hle := hsound.length_le
      rw [OrderedSet.items_ofList, hsorted] at hle
      omega }

/-- Whatever the hierarchy and the listing are, counts are right at every step, no count goes down
from zero, no model becomes ready twice or is passed over, and the ordering is over when as many
models have been taken as are listed. -/
theorem counts_down_once (graph : Hierarchy) (models : List String) :
    (∀ steps, CountsDown graph models (run graph steps (start graph (.ofList models)))
      (eventsOf graph (.ofList models) steps)) ∧
    (final graph (.ofList models)).ready = [] ∧
    ∀ more, run graph (models.eraseDups.length + more) (start graph (.ofList models)) =
      final graph (.ofList models) := by
  have hstart := sound_start graph (.ofList models)
  have hover : (run graph models.eraseDups.length (start graph (.ofList models))).ready = [] := by
    refine ready_run hstart ?_
    rw [OrderedSet.items_ofList]
    omega
  refine ⟨countsDown_run graph models, (sound_final graph _).2, fun more => ?_⟩
  rw [final, OrderedSet.items_ofList, run_add, run_add, run_of_ready_nil _ hover,
    run_of_ready_nil _ hover]

end Progress

end SheetSchema.Hierarchy
