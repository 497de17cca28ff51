import BundleLint.Settings.Store
import Mathlib.Data.List.Induction

/-!
# Sessions about the settings

Over any sequence of steps, the settings that are kept stem from one complete load, made when
nothing was kept, and no step but a drop takes them away. Whether they are kept is all that a load
knows of the past.
-/

namespace BundleLint

/-- A step that changes what the settings can be loaded from. -/
def SettingsStep.isChange : SettingsStep → Bool
  | .load | .reset => false
  | .setVariable .. | .write .. | .delete .. => true

/-- The settings and the warnings of an answer, without the object. -/
def SettingsStore.Answer.content (answer : Answer) : Settings.Loaded :=
  { settings := answer.object.settings, warnings := answer.warnings }

namespace SettingsStore

variable {store : SettingsStore} {world : World}

theorem load_of_kept {object : SettingsObject} (kept : store.kept = some object) :
    store.load world = (.ok { object, warnings := [] }, store) := by
  simp [load, kept]

theorem load_of_error {fault : LoadFault} (dropped : store.kept = none)
    (failed : Settings.load world = .error fault) : store.load world = (.error fault, store) := by
  simp [load, dropped, failed]

theorem load_of_ok {loaded : Settings.Loaded} (dropped : store.kept = none)
    (complete : Settings.load world = .ok loaded) :
    store.load world =
      (.ok { object := ⟨store.nextSerial, loaded.settings⟩, warnings := loaded.warnings },
        { kept := some ⟨store.nextSerial, loaded.settings⟩
          nextSerial := store.nextSerial + 1 }) := by
  simp [load, dropped, complete]

/-- With nothing kept a load tells what the world says now. -/
theorem content_load (dropped : store.kept = none) :
    (store.load world).1.map Answer.content = Settings.load world := by
  cases loading : Settings.load world with
  | error fault =>
      rw [load_of_error dropped loading]
      rfl
  | ok loaded =>
      rw [load_of_ok dropped loading]
      rfl

/-- A load that fails was asked with nothing kept, and keeps nothing. -/
theorem load_fst_eq_error_iff {fault : LoadFault} :
    (store.load world).1 = .error fault ↔
      store.kept = none ∧ Settings.load world = .error fault := by
  cases kept : store.kept with
  | some object => simp [load_of_kept kept]
  | none =>
      cases loading : Settings.load world with
      | error own => simp [load_of_error kept loading]
      | ok loaded => simp [load_of_ok kept loading]

/-- What a load that comes through gives is kept after it. -/
theorem kept_of_load {answer : Answer} (given : (store.load world).1 = .ok answer) :
    (store.load world).2.kept = some answer.object := by
  cases kept : store.kept with
  | some object =>
      rw [load_of_kept kept] at given ⊢
      cases given
      exact kept
  | none =>
      cases loading : Settings.load world with
      | error own =>
          rw [load_of_error kept loading] at given
          cases given
      | ok loaded =>
          rw [load_of_ok kept loading] at given ⊢
          cases given
          rfl

theorem serial_of_load {answer : Answer} (dropped : store.kept = none)
    (given : (store.load world).1 = .ok answer) : answer.object.serial = store.nextSerial := by
  cases loading : Settings.load world with
  | error own =>
      rw [load_of_error dropped loading] at given
      cases given
  | ok loaded =>
      rw [load_of_ok dropped loading] at given
      cases given
      rfl

end SettingsStore

namespace SettingsSession

section

variable (directory : Path) (place : Path → Path)

/-- The session after steps. -/
def after (session : SettingsSession) (steps : List SettingsStep) : SettingsSession :=
  steps.foldl (fun session step => (session.step directory place step).2) session

/-- The answer that a load would get now. -/
def answer (session : SettingsSession) : Except LoadFault SettingsStore.Answer :=
  (session.store.load (session.world directory place)).1

end

variable {directory : Path} {place : Path → Path} {start session : SettingsSession}

theorem step_load :
    session.step directory place .load =
      (some (session.answer directory place),
        { session with store := (session.store.load (session.world directory place)).2 }) :=
  rfl

@[simp] theorem after_nil : start.after directory place [] = start := rfl

theorem after_cons (step : SettingsStep) (steps : List SettingsStep) :
    start.after directory place (step :: steps) =
      (start.step directory place step).2.after directory place steps :=
  rfl

theorem after_append (front back : List SettingsStep) :
    start.after directory place (front ++ back) =
      (start.after directory place front).after directory place back :=
  List.foldl_append

theorem after_concat (steps : List SettingsStep) (step : SettingsStep) :
    start.after directory place (steps ++ [step]) =
      ((start.after directory place steps).step directory place step).2 := by
  rw [after_append]
  rfl

theorem after_load_append (front back : List SettingsStep) :
    start.after directory place (front ++ .load :: back) =
      (start.after directory place (front ++ [.load])).after directory place back := by
  rw [← after_append, List.append_assoc]
  rfl

/-! ## What one step does -/

/-- All that a step can do to the store: leave it, empty it, or fill it by a complete load. -/
theorem store_step_cases (session : SettingsSession) (step : SettingsStep) :
    (step ≠ .reset ∧ (session.step directory place step).2.store = session.store) ∨
      (step = .reset ∧ (session.step directory place step).2.store = session.store.reset) ∨
      (step = .load ∧ session.store.kept = none ∧
        ∃ loaded, Settings.load (session.world directory place) = .ok loaded ∧
          (session.step directory place step).2.store =
            { kept := some ⟨session.store.nextSerial, loaded.settings⟩
              nextSerial := session.store.nextSerial + 1 }) := by
  cases step with
  | reset => exact .inr (.inl ⟨rfl, rfl⟩)
  | setVariable name value => exact .inl ⟨nofun, rfl⟩
  | write path item => exact .inl ⟨nofun, rfl⟩
  | delete path => exact .inl ⟨nofun, rfl⟩
  | load =>
      rw [step_load]
      cases kept : session.store.kept with
      | some object =>
          rw [SettingsStore.load_of_kept kept]
          exact .inl ⟨nofun, rfl⟩
      | none =>
          cases loading : Settings.load (session.world directory place) with
          | error fault =>
              rw [SettingsStore.load_of_error kept loading]
              exact .inl ⟨nofun, rfl⟩
          | ok loaded =>
              rw [SettingsStore.load_of_ok kept loading]
              exact .inr (.inr ⟨rfl, rfl, loaded, rfl, rfl⟩)

/-- A step other than a load and a drop leaves the store alone. -/
theorem store_step_of_isChange {step : SettingsStep} (change : step.isChange = true) :
    (session.step directory place step).2.store = session.store := by
  cases step with
  | load => cases change
  | reset => cases change
  | setVariable name value => rfl
  | write path item => rfl
  | delete path => rfl

/-- What is kept after a step was kept before it, or has just been loaded. -/
theorem kept_step {step : SettingsStep} {object : SettingsObject}
    (kept : (session.step directory place step).2.store.kept = some object) :
    (session.store.kept = some object ∧ step ≠ .reset) ∨
      (session.store.kept = none ∧ step = .load ∧
        ∃ loaded, Settings.load (session.world directory place) = .ok loaded ∧
          object.settings = loaded.settings) := by
  rcases session.store_step_cases step with
    ⟨not_reset, same⟩ | ⟨-, emptied⟩ | ⟨rfl, before, loaded, loading, filled⟩
  · rw [same] at kept
    exact .inl ⟨kept, not_reset⟩
  · rw [emptied] at kept
    cases kept
  · rw [filled] at kept
    cases kept
    exact .inr ⟨before, rfl, loaded, loading, rfl⟩

/-- Only a drop takes away what is kept. -/
theorem kept_step_of_ne_reset {step : SettingsStep} {object : SettingsObject}
    (kept : session.store.kept = some object) (not_reset : step ≠ .reset) :
    (session.step directory place step).2.store.kept = some object := by
  rcases session.store_step_cases step with ⟨-, same⟩ | ⟨reset, -⟩ | ⟨-, before, -⟩
  · rw [same, kept]
  · exact absurd reset not_reset
  · rw [before] at kept
    cases kept

/-- Numbers of objects are not given again. -/
theorem nextSerial_le_step (session : SettingsSession) (step : SettingsStep) :
    session.store.nextSerial ≤ (session.step directory place step).2.store.nextSerial := by
  rcases session.store_step_cases step with ⟨-, same⟩ | ⟨-, emptied⟩ | ⟨-, -, loaded, -, filled⟩
  · exact Nat.le_of_eq (congrArg SettingsStore.nextSerial same.symm)
  · rw [emptied]
    exact Nat.le_refl _
  · rw [filled]
    exact Nat.le_succ _

/-- The number of the kept object has been given. -/
def Numbered (session : SettingsSession) : Prop :=
  ∀ object, session.store.kept = some object → object.serial < session.store.nextSerial

theorem Numbered.step (numbered : session.Numbered) (step : SettingsStep) :
    (session.step directory place step).2.Numbered := by
  intro object kept
  rcases session.store_step_cases step with ⟨-, same⟩ | ⟨-, emptied⟩ | ⟨-, -, loaded, -, filled⟩
  · rw [same] at kept ⊢
    exact numbered object kept
  · rw [emptied] at kept
    cases kept
  · rw [filled] at kept ⊢
    cases kept
    exact Nat.lt_succ_self _

/-! ## What a run of steps does -/

theorem kept_after_of_not_reset {object : SettingsObject} {steps : List SettingsStep}
    (kept : session.store.kept = some object) (no_reset : .reset ∉ steps) :
    (session.after directory place steps).store.kept = some object := by
  induction steps generalizing session with
  | nil => exact kept
  | cons step steps ih =>
      rw [List.mem_cons, not_or] at no_reset
      rw [after_cons]
      exact ih (kept_step_of_ne_reset kept (Ne.symm no_reset.1)) no_reset.2

theorem nextSerial_le_after (session : SettingsSession) (steps : List SettingsStep) :
    session.store.nextSerial ≤ (session.after directory place steps).store.nextSerial := by
  induction steps generalizing session with
  | nil => exact Nat.le_refl _
  | cons step steps ih => exact Nat.le_trans (session.nextSerial_le_step step) (ih _)

theorem Numbered.after (numbered : session.Numbered) (steps : List SettingsStep) :
    (session.after directory place steps).Numbered := by
  induction steps generalizing session with
  | nil => exact numbered
  | cons step steps ih => exact ih (numbered.step step)

/-- Files and variables after steps do not depend on the loads and drops among them. -/
theorem surroundings_after_changes (directory : Path) (place : Path → Path)
    {other : SettingsSession} (steps : List SettingsStep)
    (same_tree : session.tree = other.tree)
    (same_environment : session.environment = other.environment) :
    (session.after directory place steps).tree =
        (other.after directory place (steps.filter (·.isChange))).tree ∧
      (session.after directory place steps).environment =
        (other.after directory place (steps.filter (·.isChange))).environment := by
  -- The stores of the two sessions drift apart, so only files and variables are compared.
  induction steps generalizing session other with
  | nil => exact ⟨same_tree, same_environment⟩
  | cons step steps ih =>
      cases step with
      | load => exact ih same_tree same_environment
      | reset => exact ih same_tree same_environment
      | setVariable name value =>
          refine ih same_tree ?_
          simp [SettingsSession.step, same_environment]
      | write path item =>
          refine ih ?_ same_environment
          simp [SettingsSession.step, same_tree]
      | delete path =>
          refine ih ?_ same_environment
          simp [SettingsSession.step, same_tree]

theorem world_after_changes (session : SettingsSession) (steps : List SettingsStep) :
    (session.after directory place steps).world directory place =
      (session.after directory place (steps.filter (·.isChange))).world directory place := by
  obtain ⟨same_tree, same_environment⟩ :=
    surroundings_after_changes directory place steps (rfl : session.tree = session.tree) rfl
  simp [world, same_tree, same_environment]

/-- The settings of an object are those of one complete load, made at an earlier moment when nothing
was kept, and nothing has been dropped since. -/
def StemsFrom (directory : Path) (place : Path → Path) (start : SettingsSession)
    (steps : List SettingsStep) (object : SettingsObject) : Prop :=
  ∃ earlier later loaded, steps = earlier ++ .load :: later ∧ .reset ∉ later ∧
    (start.after directory place earlier).store.kept = none ∧
    Settings.load ((start.after directory place earlier).world directory place) = .ok loaded ∧
    object.settings = loaded.settings

theorem StemsFrom.concat {steps : List SettingsStep} {object : SettingsObject}
    (stems : StemsFrom directory place start steps object) {step : SettingsStep}
    (not_reset : step ≠ .reset) : StemsFrom directory place start (steps ++ [step]) object := by
  obtain ⟨earlier, later, loaded, rfl, no_reset, rest⟩ := stems
  refine ⟨earlier, later ++ [step], loaded, List.append_assoc .., ?_, rest⟩
  simp [no_reset, Ne.symm not_reset]

/-- What is kept stems from a complete load. -/
theorem stemsFrom_of_kept (dropped : start.store.kept = none) {steps : List SettingsStep}
    {object : SettingsObject}
    (kept : (start.after directory place steps).store.kept = some object) :
    StemsFrom directory place start steps object := by
  -- Over the last step: what is kept now was kept before it, or that step has loaded it.
  induction steps using List.reverseRecOn with
  | nil =>
      rw [after_nil, dropped] at kept
      cases kept
  | append_singleton steps step ih =>
      rw [after_concat] at kept
      rcases kept_step kept with
        ⟨before, not_reset⟩ | ⟨before, rfl, loaded, loading, settings_eq⟩
      · exact (ih before).concat not_reset
      · exact ⟨steps, [], loaded, rfl, List.not_mem_nil, before, loading, settings_eq⟩

/-! ## Answers along a run -/

theorem kept_after_load {steps : List SettingsStep} {given : SettingsStore.Answer}
    (answered : (start.after directory place steps).answer directory place = .ok given) :
    (start.after directory place (steps ++ [.load])).store.kept = some given.object := by
  rw [after_concat, step_load]
  exact SettingsStore.kept_of_load answered

theorem answer_of_kept {object : SettingsObject} (kept : session.store.kept = some object) :
    session.answer directory place = .ok { object, warnings := [] } := by
  rw [answer, SettingsStore.load_of_kept kept]

theorem after_load_of_error {steps : List SettingsStep} {fault : LoadFault}
    (failed : (start.after directory place steps).answer directory place = .error fault) :
    start.after directory place (steps ++ [.load]) = start.after directory place steps := by
  obtain ⟨dropped, loading⟩ := SettingsStore.load_fst_eq_error_iff.mp failed
  rw [after_concat, step_load, SettingsStore.load_of_error dropped loading]

theorem store_after_of_changes {changes : List SettingsStep}
    (all_change : ∀ step ∈ changes, step.isChange = true) :
    (session.after directory place changes).store = session.store := by
  induction changes generalizing session with
  | nil => rfl
  | cons step changes ih =>
      rw [List.forall_mem_cons] at all_change
      rw [after_cons, ih all_change.2, store_step_of_isChange all_change.1]

/-- A load with nothing kept makes an object that no load before it has given. -/
theorem serial_lt_of_answers (numbered : start.Numbered) {earlier later : List SettingsStep}
    {old new : SettingsStore.Answer}
    (first : (start.after directory place earlier).answer directory place = .ok old)
    (dropped : (start.after directory place (earlier ++ .load :: later)).store.kept = none)
    (second :
      (start.after directory place (earlier ++ .load :: later)).answer directory place =
        .ok new) :
    old.object.serial < new.object.serial := by
  have given : old.object.serial <
      (start.after directory place (earlier ++ [.load])).store.nextSerial :=
    numbered.after (earlier ++ [.load]) _ (kept_after_load first)
  have serial_eq : new.object.serial =
      (start.after directory place (earlier ++ .load :: later)).store.nextSerial :=
    SettingsStore.serial_of_load dropped second
  rw [serial_eq, after_load_append]
  exact Nat.lt_of_lt_of_le given (nextSerial_le_after _ later)

/-- The settings are kept from the first load that comes through until they are dropped. With
nothing kept, a load gives what a new program would find in the files and variables as the changes
so far have left them, in a new object. An object that has been given is given again, without a
look at files and variables. A load that fails leaves the session as it was, so that the next one
looks again, and all that is ever given stems from one complete load. A drop empties the store and
does nothing else. -/
theorem load_keeps (directory : Path) (place : Path → Path) (dropped : start.store.kept = none) :
    let after (steps : List SettingsStep) := start.after directory place steps
    let answer (steps : List SettingsStep) := (after steps).answer directory place
    (∀ steps, (after steps).store.kept = none →
      (answer steps).map (·.content) =
          (SettingsStore.empty.load
            ((after (steps.filter (·.isChange))).world directory place)).1.map (·.content) ∧
        ∀ earlier later old new, steps = earlier ++ .load :: later → answer earlier = .ok old →
          answer steps = .ok new → old.object.serial < new.object.serial) ∧
    (∀ earlier later given, answer earlier = .ok given → .reset ∉ later →
      answer (earlier ++ .load :: later) = .ok { object := given.object, warnings := [] }) ∧
    (∀ steps fault, answer steps = .error fault →
      (after steps).store.kept = none ∧ after (steps ++ [.load]) = after steps ∧
        ∀ changes, (∀ step ∈ changes, step.isChange = true) →
          (answer (steps ++ .load :: changes)).map (·.content) =
            Settings.load ((after (steps ++ .load :: changes)).world directory place)) ∧
    (∀ steps given, answer steps = .ok given →
      StemsFrom directory place start (steps ++ [.load]) given.object) ∧
    (∀ session : SettingsSession,
      session.after directory place [.reset] =
          { session with store := { session.store with kept := none } } ∧
        session.after directory place [.reset, .reset] =
          session.after directory place [.reset]) := by
  intro after answer
  refine ⟨?_, ?_, ?_, ?_, fun session => ⟨rfl, rfl⟩⟩
  · intro steps nothing_kept
    constructor
    · rw [SettingsStore.content_load rfl, ← world_after_changes]
      exact SettingsStore.content_load nothing_kept
    · rintro earlier later old new rfl first second
      have numbered : start.Numbered := by
        intro object kept
        rw [dropped] at kept
        cases kept
      exact serial_lt_of_answers numbered first nothing_kept second
  · intro earlier later given answered no_reset
    have kept : (after (earlier ++ .load :: later)).store.kept = some given.object := by
      dsimp only [after]
      rw [after_load_append]
      exact kept_after_of_not_reset (kept_after_load answered) no_reset
    exact answer_of_kept kept
  · intro steps fault failed
    obtain ⟨nothing_kept, -⟩ := SettingsStore.load_fst_eq_error_iff.mp failed
    have unmoved : after (steps ++ [.load]) = after steps := after_load_of_error failed
    refine ⟨nothing_kept, unmoved, ?_⟩
    intro changes all_change
    have store_eq : (after (steps ++ .load :: changes)).store = (after steps).store := by
      rw [← unmoved]
      dsimp only [after]
      rw [after_load_append, store_after_of_changes all_change]
    apply SettingsStore.content_load
    rw [store_eq, nothing_kept]
  · intro steps given answered
    exact stemsFrom_of_kept dropped (kept_after_load answered)

/-- A session without files and variables. -/
def bare : SettingsSession := ⟨.empty, .empty, fun _ => none⟩

theorem load_keeps_slowVariable :
    ∃ given fault,
      bare.store.kept = none ∧ bare.answer ⟨1, ["work"]⟩ id = .ok given ∧
        (bare.after ⟨1, ["work"]⟩ id [.load, .setVariable modeVariable (some "slow")]).answer
            ⟨1, ["work"]⟩ id =
          .ok { object := given.object, warnings := [] } ∧
        (bare.after ⟨1, ["work"]⟩ id [.setVariable modeVariable (some "slow")]).answer
            ⟨1, ["work"]⟩ id =
          .error fault ∧
        (bare.after ⟨1, ["work"]⟩ id
            [.setVariable modeVariable (some "slow"), .load]).store.kept = none := by
  obtain ⟨-, again, fails, -⟩ := load_keeps ⟨1, ["work"]⟩ id (show bare.store.kept = none from rfl)
  have first_ok : (bare.answer ⟨1, ["work"]⟩ id).isOk = true := by decide +kernel
  have slow_fails :
      ((bare.after ⟨1, ["work"]⟩ id [.setVariable modeVariable (some "slow")]).answer
        ⟨1, ["work"]⟩ id).isOk = false := by
    decide +kernel
  cases first : bare.answer ⟨1, ["work"]⟩ id with
  | error fault =>
      rw [first] at first_ok
      cases first_ok
  | ok given =>
      cases failed : (bare.after ⟨1, ["work"]⟩ id
          [.setVariable modeVariable (some "slow")]).answer ⟨1, ["work"]⟩ id with
      | ok answer =>
          rw [failed] at slow_fails
          cases slow_fails
      | error fault =>
          obtain ⟨nothing_kept, unmoved, -⟩ := fails _ fault failed
          refine ⟨given, fault, rfl, rfl, again [] _ given first (by simp), rfl, ?_⟩
          exact (congrArg (·.store.kept) unmoved).trans nothing_kept

end SettingsSession

end BundleLint
