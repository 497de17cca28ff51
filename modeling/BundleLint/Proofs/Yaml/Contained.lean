import BundleLint.Proofs.Outcome
import BundleLint.Yaml.Fault

/-!
# Contained computations

A computation is contained if it keeps an invariant of its state and breaks off with faults of a
certain class only. Containment is closed under everything that computations are made of, so that a
computation is contained as soon as the few steps are that touch the state or break off.
-/

namespace BundleLint.Yaml

/-- A sequence of two readings fails in the first or in the second one. -/
theorem error_of_bind {Result Next : Type} {first : Except Fault Result}
    {next : Result → Except Fault Next} {fault : Fault} (failed : first >>= next = .error fault) :
    first = .error fault ∨ ∃ result, first = .ok result ∧ next result = .error fault :=
  bind_eq_error_iff.mp failed

/-- A reading whose result is changed fails as before. -/
theorem error_of_map {Result Next : Type} {reading : Except Fault Result} {change : Result → Next}
    {fault : Fault} (failed : reading.map change = .error fault) : reading = .error fault := by
  cases reading with
  | error own =>
      cases failed
      rfl
  | ok result => cases failed

/-- A list of readings fails where one of them does. -/
theorem error_of_mapM {Item Result : Type} {read : Item → Except Fault Result}
    {items : List Item} {fault : Fault} (failed : items.mapM read = .error fault) :
    ∃ item ∈ items, read item = .error fault := by
  induction items with
  | nil => cases failed
  | cons item items ih =>
      rw [List.mapM_cons] at failed
      rcases error_of_bind failed with first | ⟨result, -, rest⟩
      · exact ⟨item, List.mem_cons_self, first⟩
      · rcases error_of_bind rest with later | ⟨results, -, ended⟩
        · obtain ⟨culprit, member, culprit_fails⟩ := ih later
          exact ⟨culprit, List.mem_cons_of_mem item member, culprit_fails⟩
        · cases ended

/-- After a computation that ends, the next one goes on with its result from its state. -/
theorem run_bind_of_ok {State Result Next : Type} {first : StateT State (Except Fault) Result}
    {state after : State} {result : Result} (run_eq : first.run state = .ok (result, after))
    (next : Result → StateT State (Except Fault) Next) :
    (first >>= next).run state = (next result).run after := by
  rw [StateT.run_bind, run_eq]
  rfl

/-- From every state with the invariant, a computation ends in such a state or with an allowed
fault. -/
def Contained {State Result : Type} (invariant : State → Prop) (allowed : Fault → Prop)
    (computation : StateT State (Except Fault) Result) : Prop :=
  ∀ state, invariant state →
    match computation.run state with
    | .ok (_, after) => invariant after
    | .error fault => allowed fault

namespace Contained

variable {State Result Next : Type} {invariant : State → Prop} {allowed : Fault → Prop}

@[grind ←]
theorem pure (result : Result) :
    Contained invariant allowed (Pure.pure result : StateT State (Except Fault) Result) :=
  fun _ kept => kept

@[grind ←]
theorem throw {fault : Fault} (allows : allowed fault) :
    Contained invariant allowed (MonadExcept.throw fault : StateT State (Except Fault) Result) :=
  fun _ _ => allows

/-- What comes after a computation may use that its result came from a state with the invariant. -/
theorem bind_of_run {first : StateT State (Except Fault) Result}
    {next : Result → StateT State (Except Fault) Next}
    (first_contained : Contained invariant allowed first)
    (next_contained : ∀ state result after, invariant state →
      first.run state = .ok (result, after) → Contained invariant allowed (next result)) :
    Contained invariant allowed (first >>= next) := by
  intro state kept
  have first_kept := first_contained state kept
  cases first_run : first.run state with
  | error fault =>
      rw [first_run] at first_kept
      rw [StateT.run_bind, first_run]
      exact first_kept
  | ok ended =>
      obtain ⟨result, after⟩ := ended
      rw [first_run] at first_kept
      rw [run_bind_of_ok first_run]
      exact next_contained state result after kept first_run after first_kept

@[grind ←]
theorem bind {first : StateT State (Except Fault) Result}
    {next : Result → StateT State (Except Fault) Next}
    (first_contained : Contained invariant allowed first)
    (next_contained : ∀ result, Contained invariant allowed (next result)) :
    Contained invariant allowed (first >>= next) :=
  first_contained.bind_of_run fun _ result _ _ _ => next_contained result

@[grind ←]
theorem map {computation : StateT State (Except Fault) Result} {change : Result → Next}
    (contained : Contained invariant allowed computation) :
    Contained invariant allowed (change <$> computation) := by
  rw [map_eq_pure_bind]
  exact contained.bind fun result => pure (change result)

@[grind ←]
theorem get :
    Contained invariant allowed (MonadState.get : StateT State (Except Fault) State) :=
  fun _ kept => kept

/-- A state that is looked at has the invariant. -/
@[grind ←]
theorem get_bind {next : State → StateT State (Except Fault) Next}
    (next_contained : ∀ state, invariant state → Contained invariant allowed (next state)) :
    Contained invariant allowed ((MonadState.get : StateT State (Except Fault) State) >>= next) :=
  get.bind_of_run fun state result _ kept run_eq => by
    cases run_eq
    exact next_contained state kept

@[grind ←]
theorem set {state : State} (kept : invariant state) :
    Contained invariant allowed (MonadStateOf.set state : StateT State (Except Fault) PUnit) :=
  fun _ _ => kept

@[grind ←]
theorem update {change : State → State}
    (keeps : ∀ state, invariant state → invariant (change state)) :
    Contained invariant allowed (modify change : StateT State (Except Fault) PUnit) :=
  fun state kept => keeps state kept

@[grind ←]
theorem lift {outcome : Except Fault Result}
    (allows : ∀ fault, outcome = .error fault → allowed fault) :
    Contained invariant allowed (liftM outcome : StateT State (Except Fault) Result) := by
  intro state kept
  cases outcome with
  | error fault => exact allows fault rfl
  | ok result => exact kept

/-- Nothing comes after a fault. -/
theorem throw_bind {fault : Fault} {next : Result → StateT State (Except Fault) Next}
    (allows : allowed fault) :
    Contained invariant allowed
      ((MonadExcept.throw fault : StateT State (Except Fault) Result) >>= next) :=
  fun _ _ => allows

theorem mapM {items : List Result} {each : Result → StateT State (Except Fault) Next}
    (each_contained : ∀ item, Contained invariant allowed (each item)) :
    Contained invariant allowed (items.mapM each) := by
  induction items with
  | nil => exact pure []
  | cons item items ih =>
      rw [List.mapM_cons]
      exact (each_contained item).bind fun _ => ih.bind fun _ => pure _

theorem forM {items : List Result} {each : Result → StateT State (Except Fault) PUnit}
    (each_contained : ∀ item, Contained invariant allowed (each item)) :
    Contained invariant allowed (items.forM each) := by
  induction items with
  | nil => exact pure ()
  | cons item items ih => exact (each_contained item).bind fun _ => ih

theorem foldlM {items : List Result} {step : Next → Result → StateT State (Except Fault) Next}
    (step_contained : ∀ reached item, Contained invariant allowed (step reached item))
    (start : Next) : Contained invariant allowed (items.foldlM step start) := by
  induction items generalizing start with
  | nil => exact pure start
  | cons item items ih =>
      rw [List.foldlM_cons]
      exact (step_contained start item).bind fun reached => ih reached

end Contained

end BundleLint.Yaml
