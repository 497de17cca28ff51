import BundleLint.Proofs.Suite.Blocks
import BundleLint.Session

/-!
# Sessions without interference

One equation for each part of a session says what a step does to it. By them a run tells of the
checks that were registered for its own suite, of what is at its path at that moment and of its
mode, whatever other steps stand around them.
-/

namespace BundleLint

/-- Lists that agree on what passes a sieve agree on what passes a finer one. -/
theorem filter_eq_of_finer {Item : Type} {fine coarse : Item → Bool}
    (finer : ∀ item, fine item = true → coarse item = true) {one two : List Item}
    (same : one.filter coarse = two.filter coarse) : one.filter fine = two.filter fine := by
  have sifted (items : List Item) : items.filter fine = (items.filter coarse).filter fine := by
    rw [List.filter_filter]
    apply List.filter_congr
    intro item _
    cases passes : fine item with
    | true => simp [finer item passes]
    | false => rfl
  rw [sifted, same, ← sifted]

theorem filterMap_cons_eq {Item Found : Type} (find? : Item → Option Found) (item : Item)
    (items : List Item) :
    (item :: items).filterMap find? = (find? item).toList ++ items.filterMap find? := by
  rw [List.filterMap_cons]
  cases find? item <;> rfl

/-- Items that act on nothing can be left out. -/
theorem foldl_filter_of_idle {State Item : Type} {act : State → Item → State}
    {counts : Item → Bool}
    (idle : ∀ item, counts item = false → ∀ state, act state item = state)
    (items : List Item) (state : State) :
    (items.filter counts).foldl act state = items.foldl act state := by
  induction items generalizing state with
  | nil => rfl
  | cons item items ih =>
      cases counted : counts item with
      | true => rw [List.filter_cons_of_pos counted, List.foldl_cons, ih, List.foldl_cons]
      | false =>
          rw [List.filter_cons_of_neg (by simp [counted]), ih, List.foldl_cons, idle item counted]

namespace SessionStep

/-! ## What a step is about -/

/-- What a step makes of the suite with a name. -/
def reshape (id : String) (suite : Suite) : SessionStep → Suite
  | .create own skipped => if own = id then .standard skipped else suite
  | .createEmpty own => if own = id then .empty else suite
  | .addFast own check => if own = id then suite.addFast check else suite
  | .addSlow own check => if own = id then suite.addSlow check else suite
  | _ => suite

/-- What a step makes of the files. -/
def rearrange (tree : FileTree) : SessionStep → FileTree
  | .write path item => tree.write path item
  | .delete path => tree.delete path
  | _ => tree

/-- The suite on which a step is taken. -/
def suiteName? : SessionStep → Option String
  | .create id _ | .createEmpty id | .addFast id _ | .addSlow id _ | .names id | .run id _ _ =>
    some id
  | .format | .json _ | .write .. | .delete _ => none

/-- Whether a step makes the suite with a name or registers a check for it. -/
def shapes (id : String) : SessionStep → Bool
  | .create own _ | .createEmpty own | .addFast own _ | .addSlow own _ => own == id
  | _ => false

/-- Whether a step changes the files. -/
def changesFiles : SessionStep → Bool
  | .write .. | .delete _ => true
  | _ => false

/-- The suite that a step makes under a name. -/
def made? (id : String) : SessionStep → Option Suite
  | .create own skipped => if own = id then some (.standard skipped) else none
  | .createEmpty own => if own = id then some .empty else none
  | _ => none

/-- The fast check that a step registers for a suite. -/
def fastCheck? (id : String) : SessionStep → Option NamedCheck
  | .addFast own check => if own = id then some check else none
  | _ => none

/-- The slow check that a step registers for a suite. -/
def slowCheck? (id : String) : SessionStep → Option NamedCheck
  | .addSlow own check => if own = id then some check else none
  | _ => none

/-- Whether a step counts for the runs of a suite: it shapes the suite or changes the files. -/
def matters (id : String) (step : SessionStep) : Bool :=
  step.shapes id || step.changesFiles

variable {id : String} {step : SessionStep}

theorem reshape_of_not_shapes (other : step.shapes id = false) (suite : Suite) :
    step.reshape id suite = suite := by
  cases step with
  | create | createEmpty | addFast | addSlow => simp_all [shapes, reshape]
  | names | run | format | json | write | delete => rfl

theorem rearrange_of_not_changesFiles (other : step.changesFiles = false) (tree : FileTree) :
    step.rearrange tree = tree := by
  cases step with
  | write | delete => cases other
  | _ => rfl

theorem shapes_eq_false {name : String} (own : step.suiteName? = some name) (ne : name ≠ id) :
    step.shapes id = false := by
  cases step with
  | create | createEmpty | addFast | addSlow => simp_all [shapes, suiteName?]
  | _ => rfl

theorem changesFiles_eq_false {name : String} (own : step.suiteName? = some name) :
    step.changesFiles = false := by
  cases step with
  | write | delete => cases own
  | _ => rfl

theorem reshape_of_made {suite : Suite} (made : step.made? id = some suite) (before : Suite) :
    step.reshape id before = suite := by
  cases step with
  | create | createEmpty => simp_all [made?, reshape]
  | _ => cases made

/-- A step that does not make a suite leaves its checks as they are and registers others after
them. -/
theorem reshape_of_not_made (kept : step.made? id = none) (suite : Suite) :
    step.reshape id suite =
      { fast := suite.fast ++ (step.fastCheck? id).toList
        slow := suite.slow ++ (step.slowCheck? id).toList } := by
  cases step with
  | create | createEmpty => simp_all [made?, reshape, fastCheck?, slowCheck?]
  | addFast own check | addSlow own check =>
      by_cases same : own = id
      · simp [reshape, fastCheck?, slowCheck?, same, Suite.addFast, Suite.addSlow]
      · simp [reshape, fastCheck?, slowCheck?, same]
  | names | run | format | json | write | delete => simp [reshape, fastCheck?, slowCheck?]

theorem shapes_of_matters {one two : List SessionStep}
    (same : one.filter (·.matters id) = two.filter (·.matters id)) :
    one.filter (·.shapes id) = two.filter (·.shapes id) :=
  filter_eq_of_finer (fun step shapes => by simp [matters, shapes]) same

theorem changesFiles_of_matters {one two : List SessionStep}
    (same : one.filter (·.matters id) = two.filter (·.matters id)) :
    one.filter (·.changesFiles) = two.filter (·.changesFiles) :=
  filter_eq_of_finer (fun step changes => by simp [matters, changes]) same

end SessionStep

/-- The answer to a run. -/
def SessionAnswer.ofRun : Except RunFault Report → SessionAnswer
  | .ok made => .report made
  | .error cause => .fault cause

/-- The report that an answer gives. -/
def SessionAnswer.report? : SessionAnswer → Option Report
  | .report made => some made
  | _ => none

theorem SessionAnswer.report?_eq_some_iff {answer : SessionAnswer} {report : Report} :
    answer.report? = some report ↔ answer = .report report := by
  cases answer <;> simp [report?]

/-- A run looks at nothing but its path. -/
theorem Suite.run_congr {files others : Files} {path : Path} (same : files path = others path)
    (suite : Suite) (mode : CheckMode) :
    suite.run files mode path = suite.run others mode path := by
  have opened : openText files path = openText others path := by
    unfold openText
    rw [same]
  unfold run
  rw [opened]

namespace Session

variable {session other : Session}

/-! ## What a step does -/

theorem suite_eq (session : Session) (id : String) :
    session.suite id = ((session.suites.find? (·.1 == id)).map (·.2)).getD .empty := by
  unfold Session.suite
  split
  · rename_i known suite found
    have held : session.suites.find? (·.1 == id) = some (known, suite) := found
    rw [held]
    rfl
  · rename_i unfound
    have missing : session.suites.find? (·.1 == id) = none := unfound
    rw [missing]
    rfl

theorem bind_suite (session : Session) (own id : String) (suite : Suite) :
    (session.bind own suite).2.suite id = if own = id then suite else session.suite id := by
  have bound : (session.bind own suite).2.suites =
      (own, suite) :: session.suites.filter (·.1 != own) :=
    rfl
  rw [suite_eq, bound]
  by_cases same : own = id
  · simp [same]
  · have found : (session.suites.filter (·.1 != own)).find? (·.1 == id) =
        session.suites.find? (·.1 == id) := by
      rw [List.find?_filter]
      congr 1
      funext entry
      by_cases asked : entry.1 = id
      · simp [asked, Ne.symm same]
      · simp [asked]
    rw [List.find?_cons_of_neg (by simpa using same), found, if_neg same, suite_eq]

/-- The suites of a session after a step. -/
theorem step_suite (session : Session) (step : SessionStep) (id : String) :
    (session.step step).2.suite id = step.reshape id (session.suite id) := by
  cases step with
  | create own skipped => exact session.bind_suite own id _
  | createEmpty own => exact session.bind_suite own id _
  | addFast own check | addSlow own check =>
      rw [Session.step, bind_suite, SessionStep.reshape]
      split
      · rename_i same
        rw [same]
      · rfl
  | run own mode path =>
      rw [Session.step]
      cases (session.suite own).run session.tree.status mode path <;> rfl
  | format =>
      rw [Session.step]
      cases session.reports.getLast? <;> rfl
  | names | json | write | delete => rfl

/-- The files of a session after a step. -/
theorem step_tree (session : Session) (step : SessionStep) :
    (session.step step).2.tree = step.rearrange session.tree := by
  cases step with
  | run own mode path =>
      rw [Session.step]
      cases (session.suite own).run session.tree.status mode path <;> rfl
  | format =>
      rw [Session.step]
      cases session.reports.getLast? <;> rfl
  | create | createEmpty | addFast | addSlow | names | json | write | delete => rfl

/-- The reports of a session after a step: the step adds the one that it gives. -/
theorem step_reports (session : Session) (step : SessionStep) :
    (session.step step).2.reports =
      session.reports ++ (session.step step).1.report?.toList := by
  cases step with
  | run own mode path =>
      rw [Session.step]
      cases (session.suite own).run session.tree.status mode path with
      | ok report => rfl
      | error fault => simp [SessionAnswer.report?]
  | format =>
      rw [Session.step]
      cases session.reports.getLast? with
      | some report => simp [SessionAnswer.report?]
      | none => simp [SessionAnswer.report?]
  | create | createEmpty | addFast | addSlow | names | json | write | delete =>
      simp [Session.step, Session.bind, SessionAnswer.report?]

theorem step_run (session : Session) (id : String) (mode : CheckMode) (path : Path) :
    (session.step (.run id mode path)).1 =
      .ofRun ((session.suite id).run session.tree.status mode path) := by
  rw [Session.step]
  cases (session.suite id).run session.tree.status mode path <;> rfl

/-- The answer to a step on a suite is told by that suite and the files. -/
theorem step_answer_congr {step : SessionStep} {id : String} (own : step.suiteName? = some id)
    (same_suite : session.suite id = other.suite id) (same_tree : session.tree = other.tree) :
    (session.step step).1 = (other.step step).1 := by
  cases step with
  | create | createEmpty => rfl
  | addFast | addSlow | names =>
      cases own
      simp [Session.step, Session.bind, same_suite]
  | run own mode path =>
      cases own
      rw [step_run, step_run, same_suite, same_tree]
  | format | json | write | delete => cases own

/-! ## What steps do -/

/-- The session after steps. -/
def after (session : Session) (steps : List SessionStep) : Session :=
  (session.steps steps).2

/-- The answers to steps. -/
def answers (session : Session) (steps : List SessionStep) : List SessionAnswer :=
  (session.steps steps).1

@[simp] theorem after_nil : session.after [] = session := rfl

theorem after_cons (step : SessionStep) (steps : List SessionStep) :
    session.after (step :: steps) = (session.step step).2.after steps :=
  rfl

theorem answers_cons (step : SessionStep) (steps : List SessionStep) :
    session.answers (step :: steps) =
      (session.step step).1 :: (session.step step).2.answers steps :=
  rfl

theorem after_append (front back : List SessionStep) :
    session.after (front ++ back) = (session.after front).after back := by
  induction front generalizing session with
  | nil => rfl
  | cons step front ih => exact ih

theorem answers_append (front back : List SessionStep) :
    session.answers (front ++ back) =
      session.answers front ++ (session.after front).answers back := by
  induction front generalizing session with
  | nil => rfl
  | cons step front ih => rw [List.cons_append, answers_cons, ih, answers_cons, after_cons]; rfl

theorem length_answers (steps : List SessionStep) :
    (session.answers steps).length = steps.length := by
  induction steps generalizing session with
  | nil => rfl
  | cons step steps ih => rw [answers_cons, List.length_cons, ih, List.length_cons]

/-- The suites of a session after steps. -/
theorem after_suite (session : Session) (steps : List SessionStep) (id : String) :
    (session.after steps).suite id =
      steps.foldl (fun suite step => step.reshape id suite) (session.suite id) := by
  induction steps generalizing session with
  | nil => rfl
  | cons step steps ih => rw [after_cons, ih, step_suite, List.foldl_cons]

/-- The files of a session after steps. -/
theorem after_tree (session : Session) (steps : List SessionStep) :
    (session.after steps).tree = steps.foldl SessionStep.rearrange session.tree := by
  induction steps generalizing session with
  | nil => rfl
  | cons step steps ih => rw [after_cons, ih, step_tree, List.foldl_cons]

/-- The reports of a session after steps. -/
theorem after_reports (session : Session) (steps : List SessionStep) :
    (session.after steps).reports =
      session.reports ++ (session.answers steps).filterMap (·.report?) := by
  induction steps generalizing session with
  | nil => simp [answers, steps]
  | cons step steps ih =>
      rw [after_cons, ih, step_reports, answers_cons, filterMap_cons_eq, List.append_assoc]

/-! ## What steps do to a suite and to the files -/

/-- Only the steps that shape a suite count for it. -/
theorem after_suite_filter (session : Session) (steps : List SessionStep) (id : String) :
    (session.after steps).suite id = (session.after (steps.filter (·.shapes id))).suite id := by
  rw [after_suite, after_suite, foldl_filter_of_idle]
  exact fun step other suite => SessionStep.reshape_of_not_shapes other suite

/-- Only the changes of files count for the files. -/
theorem after_tree_filter (session : Session) (steps : List SessionStep) :
    (session.after steps).tree = (session.after (steps.filter (·.changesFiles))).tree := by
  rw [after_tree, after_tree, foldl_filter_of_idle]
  exact fun step other tree => SessionStep.rearrange_of_not_changesFiles other tree

/-- The checks that are registered for a suite stand behind those it has, in order. -/
theorem after_suite_of_kept (session : Session) {steps : List SessionStep} {id : String}
    (kept : ∀ step ∈ steps, step.made? id = none) :
    (session.after steps).suite id =
      { fast := (session.suite id).fast ++ steps.filterMap (·.fastCheck? id)
        slow := (session.suite id).slow ++ steps.filterMap (·.slowCheck? id) } := by
  induction steps generalizing session with
  | nil => simp
  | cons step steps ih =>
      rw [List.forall_mem_cons] at kept
      rw [after_cons, ih _ kept.2, step_suite, SessionStep.reshape_of_not_made kept.1]
      simp only [filterMap_cons_eq, List.append_assoc]

/-- The checks of a suite are those it was made with and those registered since, in order. -/
theorem after_suite_of_made (session : Session) {earlier later : List SessionStep}
    {made : SessionStep} {id : String} {base : Suite} (makes : made.made? id = some base)
    (kept : ∀ step ∈ later, step.made? id = none) :
    (session.after (earlier ++ made :: later)).suite id =
      { fast := base.fast ++ later.filterMap (·.fastCheck? id)
        slow := base.slow ++ later.filterMap (·.slowCheck? id) } := by
  rw [after_append, after_cons, after_suite_of_kept _ kept, step_suite,
    SessionStep.reshape_of_made makes]

/-! ## Steps that do not meet -/

/-- The same suites under all names, the same files, and the same reports in some order. -/
structure Alike (session other : Session) : Prop where
  /-- The suites are the same. -/
  suite : ∀ id, session.suite id = other.suite id
  /-- The files are the same. -/
  tree : session.tree = other.tree
  /-- The reports are the same but for their order. -/
  reports : session.reports.Perm other.reports

variable {one two : SessionStep} {id own : String}

/-- A step on another suite does not change the answer. -/
theorem step_answer_of_apart (on_own : one.suiteName? = some own) (on_id : two.suiteName? = some id)
    (apart : own ≠ id) : ((session.step one).2.step two).1 = (session.step two).1 := by
  apply step_answer_congr on_id
  · rw [step_suite, SessionStep.reshape_of_not_shapes (SessionStep.shapes_eq_false on_own apart)]
  · rw [step_tree, SessionStep.rearrange_of_not_changesFiles
      (SessionStep.changesFiles_eq_false on_own)]

/-- Steps on two suites can be taken in either order. -/
theorem step_comm (on_own : one.suiteName? = some own) (on_id : two.suiteName? = some id)
    (apart : own ≠ id) :
    ((session.step one).2.step two).2.Alike ((session.step two).2.step one).2 where
  suite name := by
    rw [step_suite, step_suite, step_suite, step_suite]
    by_cases named : name = own
    · have idle := SessionStep.shapes_eq_false on_id fun same => apart (named.symm.trans same.symm)
      rw [SessionStep.reshape_of_not_shapes idle, SessionStep.reshape_of_not_shapes idle]
    · have idle := SessionStep.shapes_eq_false on_own (Ne.symm named)
      rw [SessionStep.reshape_of_not_shapes idle, SessionStep.reshape_of_not_shapes idle]
  tree := by
    have idle := SessionStep.changesFiles_eq_false on_own
    rw [step_tree, step_tree, step_tree, step_tree,
      SessionStep.rearrange_of_not_changesFiles idle,
      SessionStep.rearrange_of_not_changesFiles idle]
  reports := by
    rw [step_reports, step_reports, step_reports, step_reports,
      step_answer_of_apart on_own on_id apart, step_answer_of_apart on_id on_own apart.symm,
      List.append_assoc, List.append_assoc]
    exact List.perm_append_comm.append_left _

/-! ## Runs -/

/-- The answer to a step that is taken after others. -/
def answerAfter (session : Session) (before : List SessionStep) (step : SessionStep) :
    SessionAnswer :=
  ((session.after before).step step).1

theorem answerAfter_append (session : Session) (front back : List SessionStep)
    (step : SessionStep) :
    session.answerAfter (front ++ back) step = (session.after front).answerAfter back step := by
  rw [answerAfter, after_append]
  rfl

/-- Sessions that differ in the order of their reports only do not differ in later runs. -/
theorem Alike.answerAfter_run (alike : session.Alike other) (later : List SessionStep) (id : String)
    (mode : CheckMode) (path : Path) :
    session.answerAfter later (.run id mode path) =
      other.answerAfter later (.run id mode path) := by
  rw [answerAfter, answerAfter, step_run, step_run, after_suite, after_suite other, after_tree,
    after_tree other, alike.suite, alike.tree]

/-- The answer to each step stands at its place. -/
theorem answers_at (session : Session) (before : List SessionStep) (step : SessionStep)
    (later : List SessionStep) :
    (session.answers (before ++ step :: later))[before.length]? =
      some (session.answerAfter before step) := by
  rw [answers_append, answers_cons,
    List.getElem?_append_right (Nat.le_of_eq (length_answers before)), length_answers,
    Nat.sub_self]
  rfl

theorem after_reports_prefix (session : Session) (before later : List SessionStep) :
    (session.after before).reports <+: (session.after (before ++ later)).reports := by
  rw [after_append, after_reports _ later]
  exact List.prefix_append ..

/-- The answer to a run is told by the steps that shape its suite and by what is at its path. -/
theorem answerAfter_run_congr {one two : List SessionStep} {id : String} {path : Path}
    (same_suite : one.filter (·.shapes id) = two.filter (·.shapes id))
    (same_status : (session.after one).tree.status path = (session.after two).tree.status path)
    (mode : CheckMode) :
    session.answerAfter one (.run id mode path) = session.answerAfter two (.run id mode path) := by
  rw [answerAfter, answerAfter, step_run, step_run, after_suite_filter _ one,
    after_suite_filter _ two, same_suite, Suite.run_congr same_status]

/-- Runs of one suite and steps on another one do not interfere. An answer once given stays, and so
does a report. A run tells of the checks that were registered for its suite since it was made, in
their order, of what is at its path and of its mode. So steps that neither shape the suite nor
change files, such as runs and all that is done to other suites, can be put in, left out and moved
without a change to any later run, and steps on two suites can be taken in either order. -/
theorem runs_isolated (start : Session) :
    (∀ before step later,
      (start.answers (before ++ step :: later))[before.length]? =
          some (start.answerAfter before step) ∧
        (start.after before).reports <+: (start.after (before ++ later)).reports) ∧
    (∀ earlier made later id base mode path, made.made? id = some base →
      (∀ step ∈ later, step.made? id = none) →
        start.answerAfter (earlier ++ made :: later) (.run id mode path) =
          .ofRun (Suite.run
            { fast := base.fast ++ later.filterMap (·.fastCheck? id)
              slow := base.slow ++ later.filterMap (·.slowCheck? id) }
            (start.after (earlier ++ made :: later)).tree.status mode path)) ∧
    (∀ one two id mode path, one.filter (·.shapes id) = two.filter (·.shapes id) →
      (start.after one).tree.status path = (start.after two).tree.status path →
        start.answerAfter one (.run id mode path) = start.answerAfter two (.run id mode path)) ∧
    (∀ one two id, one.filter (·.matters id) = two.filter (·.matters id) →
      ∀ later mode path,
        start.answerAfter (one ++ later) (.run id mode path) =
          start.answerAfter (two ++ later) (.run id mode path)) ∧
    (∀ before one two own id, one.suiteName? = some own → two.suiteName? = some id → own ≠ id →
      start.answerAfter (before ++ [one]) two = start.answerAfter before two ∧
        start.answerAfter (before ++ [two]) one = start.answerAfter before one ∧
        (start.after (before ++ [one, two])).Alike (start.after (before ++ [two, one])) ∧
        ∀ later name mode path,
          start.answerAfter (before ++ [one, two] ++ later) (.run name mode path) =
            start.answerAfter (before ++ [two, one] ++ later) (.run name mode path)) := by
  refine ⟨?stay, ?told, ?congruent, ?idle, ?commute⟩
  case stay =>
    intro before step later
    exact ⟨answers_at start before step later, after_reports_prefix start before later⟩
  case told =>
    intro earlier made later id base mode path makes kept
    rw [answerAfter, step_run, after_suite_of_made start makes kept]
  case congruent =>
    intro one two id mode path same_suite same_status
    exact answerAfter_run_congr same_suite same_status mode
  case idle =>
    intro one two id same later mode path
    apply answerAfter_run_congr
    · rw [List.filter_append, List.filter_append, SessionStep.shapes_of_matters same]
    · rw [after_tree_filter, after_tree_filter _ (two ++ later), List.filter_append,
        List.filter_append, SessionStep.changesFiles_of_matters same]
  case commute =>
    intro before one two own id on_own on_id apart
    have alike :
        (start.after (before ++ [one, two])).Alike (start.after (before ++ [two, one])) := by
      rw [after_append, after_append]
      exact step_comm on_own on_id apart
    refine ⟨?_, ?_, alike, ?_⟩
    · rw [answerAfter, after_append]
      exact step_answer_of_apart on_own on_id apart
    · rw [answerAfter, after_append]
      exact step_answer_of_apart on_id on_own apart.symm
    · intro later name mode path
      rw [answerAfter_append, answerAfter_append]
      exact alike.answerAfter_run later name mode path

/-- A file, a suite with a fast check, and a suite with a slow one that runs on the file. -/
def twoSuites : List SessionStep :=
  [.write ⟨0, ["b.md"]⟩ (.file namedText.toUTF8.toList), .createEmpty "quick",
    .addFast "quick" { name := "lists", run := fun bundle => .issues [notFoundIssue bundle.path] },
    .createEmpty "whole", .addSlow "whole" { name := "breaks", run := fun _ => .notList "int" },
    .run "whole" .comprehensive ⟨0, ["b.md"]⟩]

theorem runs_isolated_twoSuites :
    ∃ check report,
      initial.answerAfter twoSuites (.run "quick" .fast ⟨0, ["b.md"]⟩) =
          .ofRun (Suite.run { fast := [check], slow := [] } (initial.after twoSuites).tree.status
            .fast ⟨0, ["b.md"]⟩) ∧
        initial.answerAfter twoSuites (.run "quick" .fast ⟨0, ["b.md"]⟩) = .report report ∧
        report.checksRun = ["lists"] ∧
        initial.answerAfter (twoSuites.take 3) (.run "quick" .fast ⟨0, ["b.md"]⟩) =
          .report report ∧
        initial.answerAfter (twoSuites ++ [.delete ⟨0, ["b.md"]⟩])
            (.run "quick" .fast ⟨0, ["b.md"]⟩) =
          initial.answerAfter (twoSuites.take 3 ++ [.delete ⟨0, ["b.md"]⟩])
            (.run "quick" .fast ⟨0, ["b.md"]⟩) ∧
        (initial.after (twoSuites ++ [.run "quick" .fast ⟨0, ["b.md"]⟩, .names "whole"])).Alike
          (initial.after (twoSuites ++ [.names "whole", .run "quick" .fast ⟨0, ["b.md"]⟩])) := by
  have names_known :
      (initial.answerAfter twoSuites (.run "quick" .fast ⟨0, ["b.md"]⟩)).report?.map
        (·.checksRun) = some ["lists"] := by
    decide +kernel
  obtain ⟨report, reported, names_eq⟩ := Option.map_eq_some_iff.mp names_known
  have answered := SessionAnswer.report?_eq_some_iff.mp reported
  obtain ⟨-, told, congruent, idle, commute⟩ := runs_isolated initial
  have ran := told (twoSuites.take 1) (.createEmpty "quick") (twoSuites.drop 2) "quick" .empty .fast
    ⟨0, ["b.md"]⟩ rfl (by decide)
  have same := congruent twoSuites (twoSuites.take 3) "quick" .fast ⟨0, ["b.md"]⟩ rfl
    (by rw [after_tree, after_tree]; rfl)
  have idle_removed := idle twoSuites (twoSuites.take 3) "quick" rfl [.delete ⟨0, ["b.md"]⟩] .fast
    ⟨0, ["b.md"]⟩
  obtain ⟨-, -, alike, -⟩ := commute twoSuites (.run "quick" .fast ⟨0, ["b.md"]⟩) (.names "whole")
    "quick" "whole" rfl rfl (by decide)
  exact ⟨_, report, ran, answered, names_eq, same.symm.trans answered, idle_removed, alike⟩

end Session

end BundleLint
