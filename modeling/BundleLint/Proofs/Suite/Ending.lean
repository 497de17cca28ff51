import BundleLint.Proofs.Check.Fault
import BundleLint.Proofs.Suite.Blocks
import BundleLint.Proofs.Suite.Escape

/-!
# Endings of a run

A run that gives a report has ended in one of four ways, and the file alone decides in which. In
three of them there is one error and no check has run.
-/

namespace BundleLint

/-- A path can be read and gives UTF-8 with the given text, whether it can be looked up or not. -/
def Holds (files : Files) (path : Path) (text : List Char) : Prop :=
  ∃ bytes content, (files path).content? = some (.ok bytes) ∧
    Text.Utf8.decode bytes = .ok content ∧ text = Text.unifyLineFeeds content

theorem openText_eq_text_iff {files : Files} {path : Path} {text : List Char} :
    openText files path = .text text ↔ Holds files path text := by
  unfold openText Holds
  cases (files path).content? with
  | none => simp
  | some content =>
      cases content with
      | error error => simp
      | ok bytes =>
          cases decoded : Text.Utf8.decode bytes with
          | error malformed => simp [decoded]
          | ok content => simp [decoded, eq_comm]

theorem Status.content?_eq_none_iff {status : Status} :
    status.content? = none ↔ status = .absent := by
  cases status <;> simp [content?]

/-- How a run that gives a report ends. -/
inductive Ending where
  /-- There is no file. -/
  | missing
  /-- The file cannot be read. -/
  | unreadable (fault : ReadFault)
  /-- The front matter is wrong. -/
  | rejected (rejection : FrontMatter.Rejection)
  /-- The checks have run on a bundle. -/
  | inspected (bundle : Bundle)

/-- The ending that the files ask for. A path that cannot be looked up is not missing: what counts
is whether it can be read. -/
inductive EndsAs (files : Files) (path : Path) : Ending → Prop
  | missing (absent : files path = .absent) : EndsAs files path .missing
  | unreadable {error : SystemError} (refused : (files path).content? = some (.error error)) :
      EndsAs files path (.unreadable (.system error))
  | undecodable {bytes : List UInt8} {malformed : Text.Utf8.Malformed}
      (present : (files path).content? = some (.ok bytes))
      (broken : Text.Utf8.decode bytes = .error malformed) :
      EndsAs files path (.unreadable (.undecodable malformed))
  | rejected {text : List Char} {rejection : FrontMatter.Rejection} (holds : Holds files path text)
      (wrong : FrontMatter.split text = .error (.rejected rejection)) :
      EndsAs files path (.rejected rejection)
  | inspected {text : List Char} {parts : FrontMatter.Parts} (holds : Holds files path text)
      (parted : FrontMatter.split text = .ok parts) :
      EndsAs files path (.inspected { config := parts.config, body := parts.body, path })

namespace Ending

/-- The ending of a run on a path, unless the reader breaks off. -/
def of? (files : Files) (path : Path) : Option Ending :=
  match openText files path with
  | .absent => some .missing
  | .unreadable fault => some (.unreadable fault)
  | .text text =>
    match FrontMatter.split text with
    | .ok parts => some (.inspected { config := parts.config, body := parts.body, path })
    | .error (.rejected rejection) => some (.rejected rejection)
    | .error (.escaped _) => none

/-- Code of the one issue of a run that has stopped before the checks. -/
def code? : Ending → Option String
  | .missing => some "FILE_NOT_FOUND"
  | .unreadable _ => some "FILE_READ_ERROR"
  | .rejected _ => some "YAML_SYNTAX"
  | .inspected _ => none

theorem code?_eq_none_iff {ending : Ending} :
    ending.code? = none ↔ ∃ bundle, ending = .inspected bundle := by
  cases ending <;> simp [code?]

/-- The report of a run that ends so, if no check breaks it off. -/
def report (suite : Suite) (mode : CheckMode) (path : Path) : Ending → Report
  | .missing => (Report.start path mode).add (notFoundIssue path)
  | .unreadable fault => (Report.start path mode).add (readErrorIssue path fault)
  | .rejected rejection => (Report.start path mode).add (syntaxIssue path rejection)
  | .inspected bundle => suite.survey mode bundle

/-- No check breaks off a run that ends so. -/
def Tells (suite : Suite) (mode : CheckMode) : Ending → Prop
  | .inspected bundle => suite.Tells mode bundle
  | _ => True

theorem tells_of_coded {ending : Ending} {code : String} (coded : ending.code? = some code)
    (suite : Suite) (mode : CheckMode) : ending.Tells suite mode := by
  cases ending with
  | inspected bundle => cases coded
  | _ => trivial

theorem of?_of_text {files : Files} {path : Path} {text : List Char} (holds : Holds files path text)
    {ending : Ending} :
    of? files path = some ending ↔
      (∃ parts, FrontMatter.split text = .ok parts ∧
        ending = .inspected { config := parts.config, body := parts.body, path }) ∨
      ∃ rejection, FrontMatter.split text = .error (.rejected rejection) ∧
        ending = .rejected rejection := by
  have opened := openText_eq_text_iff.mpr holds
  cases parted : FrontMatter.split text with
  | ok parts => simp [of?, opened, parted, eq_comm]
  | error failure =>
      cases failure with
      | escaped fault => simp [of?, opened, parted]
      | rejected rejection => simp [of?, opened, parted, eq_comm]

/-- The ending that is computed is the one that the files ask for. -/
theorem of?_eq_some_iff {files : Files} {path : Path} {ending : Ending} :
    of? files path = some ending ↔ EndsAs files path ending := by
  constructor
  · intro computed
    cases content_eq : (files path).content? with
    | none =>
        obtain rfl : missing = ending := by simpa [of?, openText, content_eq] using computed
        exact .missing (Status.content?_eq_none_iff.mp content_eq)
    | some content =>
        cases content with
        | error error =>
            obtain rfl : unreadable (.system error) = ending := by
              simpa [of?, openText, content_eq] using computed
            exact .unreadable content_eq
        | ok bytes =>
            cases decoded : Text.Utf8.decode bytes with
            | error malformed =>
                obtain rfl : unreadable (.undecodable malformed) = ending := by
                  simpa [of?, openText, content_eq, decoded] using computed
                exact .undecodable content_eq decoded
            | ok content =>
                have holds : Holds files path _ := ⟨bytes, content, content_eq, decoded, rfl⟩
                obtain ⟨parts, parted, rfl⟩ | ⟨rejection, wrong, rfl⟩ :=
                  (of?_of_text holds).mp computed
                · exact .inspected holds parted
                · exact .rejected holds wrong
  · intro ends
    cases ends with
    | missing absent => simp [of?, openText, absent, Status.content?]
    | unreadable refused => simp [of?, openText, refused]
    | undecodable present broken => simp [of?, openText, present, broken]
    | rejected holds wrong => exact (of?_of_text holds).mpr (.inr ⟨_, wrong, rfl⟩)
    | inspected holds parted => exact (of?_of_text holds).mpr (.inl ⟨_, parted, rfl⟩)

end Ending

/-- A report with one error about a path, and nothing of any check. -/
structure Report.Stops (path : Path) (code : String) (report : Report) : Prop where
  /-- There is one issue, an error of the code about the path. -/
  issue : ∃ issue, report.issues = [issue] ∧ issue.severity = .error ∧ issue.code = code ∧
    issue.filePath = some path.text
  /-- No check is noted to have run. -/
  checksRun : report.checksRun = []
  /-- The kind of the file is not known. -/
  kind : report.kind = none
  /-- The file fails. -/
  passed : report.passed = false

/-- A run gives a report exactly if the files ask for an ending and no check breaks it off, and then
the report of that ending. -/
theorem Suite.run_eq_ok_iff {suite : Suite} {files : Files} {mode : CheckMode} {path : Path}
    {report : Report} :
    suite.run files mode path = .ok report ↔
      ∃ ending, EndsAs files path ending ∧ ending.Tells suite mode ∧
        ending.report suite mode path = report := by
  simp only [← Ending.of?_eq_some_iff, run, Ending.of?]
  cases openText files path with
  | absent => simp [Ending.report, Ending.Tells]
  | unreadable fault => simp [Ending.report, Ending.Tells]
  | text text =>
      dsimp only
      cases FrontMatter.split text with
      | ok parts => simp [Ending.report, Ending.Tells, mapError_eq_ok_iff, inspect_eq_ok_iff]
      | error failure =>
          cases failure with
          | escaped fault => simp
          | rejected rejection => simp [Ending.report, Ending.Tells]

/-- The files ask for one ending at most. -/
theorem EndsAs.unique {files : Files} {path : Path} {ending other : Ending}
    (ends : EndsAs files path ending) (otherwise : EndsAs files path other) : other = ending := by
  rw [← Ending.of?_eq_some_iff] at ends otherwise
  exact Option.some.inj (otherwise.symm.trans ends)

theorem Report.stops_start {path : Path} {mode : CheckMode} {issue : Issue} {code : String}
    (severe : issue.severity = .error) (code_eq : issue.code = code)
    (about : issue.filePath = some path.text) :
    ((Report.start path mode).add issue).Stops path code where
  issue := ⟨issue, rfl, severe, code_eq, about⟩
  checksRun := rfl
  kind := rfl
  passed := by simp [passed, hasErrors, Report.add, Report.start, severe, Severity.isBlocking]

/-- An ending with a code stops the run: there is no trace of any check in its report. -/
theorem Ending.report_stops {ending : Ending} {code : String} (coded : ending.code? = some code)
    (suite : Suite) (mode : CheckMode) (path : Path) :
    (ending.report suite mode path).Stops path code ∧
      ∀ (other : Suite) (otherMode : CheckMode),
        ending.report other otherMode path =
          { ending.report suite mode path with mode := otherMode } := by
  cases ending with
  | missing =>
      cases coded
      exact ⟨Report.stops_start rfl rfl rfl, fun _ _ => rfl⟩
  | unreadable fault =>
      cases coded
      exact ⟨Report.stops_start rfl rfl rfl, fun _ _ => rfl⟩
  | rejected rejection =>
      cases coded
      obtain ⟨message, line, issue_eq⟩ := syntaxIssue_eq_earlyError path rejection
      refine ⟨?_, fun _ _ => rfl⟩
      rw [report, issue_eq]
      exact Report.stops_start rfl rfl rfl
  | inspected bundle => cases coded

/-- A run that gives a report ends in exactly one way. Unless it has inspected a bundle there is one
error about the path, nothing of any check, and the same report for any other suite. Otherwise each
check of the mode has run once for each time that it is registered, and the kind is told by the key
of an agent. -/
theorem Suite.run_ends {suite : Suite} {files : Files} {mode : CheckMode} {path : Path}
    {report : Report} (returned : suite.run files mode path = .ok report) :
    ∃ ending, EndsAs files path ending ∧
      (∀ other, EndsAs files path other → other = ending) ∧
      (report.kind = none ↔ ∃ code, ending.code? = some code) ∧
      (∀ code, ending.code? = some code →
        report.Stops path code ∧
          ∀ (other : Suite) (otherMode : CheckMode),
            other.run files otherMode path = .ok { report with mode := otherMode }) ∧
      ∀ bundle, ending = .inspected bundle →
        (report.kind = some .agent ↔ bundle.config.Has "meta") ∧
          (report.kind = some .bundle ↔ ¬bundle.config.Has "meta") ∧
          report.checksRun =
            suite.fast.map (·.name) ++
              (if mode = .comprehensive then suite.slow.map (·.name) else []) ∧
          report.issues =
            suite.fast.flatMap (·.block bundle) ++
              (if mode = .comprehensive then suite.slow.flatMap (·.block bundle) else []) := by
  obtain ⟨ending, ends, -, rfl⟩ := run_eq_ok_iff.mp returned
  -- The ending comes from the files alone, so other suites and modes have the same one.
  have stops {code : String} (coded : ending.code? = some code) := ending.report_stops coded
  refine ⟨ending, ends, fun other => ends.unique, ?_, ?_, ?_⟩
  · cases coded : ending.code? with
    | some code => simp [(stops coded suite mode path).1.kind]
    | none =>
        obtain ⟨bundle, rfl⟩ := Ending.code?_eq_none_iff.mp coded
        simp [Ending.report, survey]
  · intro code coded
    obtain ⟨stopped, same⟩ := stops coded suite mode path
    refine ⟨stopped, fun other otherMode => run_eq_ok_iff.mpr ⟨ending, ends, ?_, ?_⟩⟩
    · exact Ending.tells_of_coded coded other otherMode
    · exact same other otherMode
  · rintro bundle rfl
    have kind_eq : (suite.survey mode bundle).kind = some (classify bundle.config) := rfl
    refine ⟨?_, ?_, suite.survey_phases mode bundle⟩
    · rw [Ending.report, kind_eq, Option.some_inj, classify_eq_agent_iff]
    · rw [Ending.report, kind_eq, Option.some_inj, classify_eq_bundle_iff]

/-- A file that cannot be looked up because of its permissions, and cannot be read either. -/
def forbidden (path : Path) : Status :=
  let error : SystemError :=
    { number := 13, description := "Permission denied", path := some path }
  .unseen error (.error error)

theorem Suite.run_ends_forbidden :
    ∃ report,
      mixedSuite.run forbidden .comprehensive ⟨0, ["b.md"]⟩ = .ok report ∧
        report.Stops ⟨0, ["b.md"]⟩ "FILE_READ_ERROR" ∧
        report.issues.map (·.message) =
          ["failed to read bundle file: [Errno 13] Permission denied: 'b.md'"] ∧
        Suite.empty.run forbidden .comprehensive ⟨0, ["b.md"]⟩ = .ok report := by
  have ends : EndsAs forbidden ⟨0, ["b.md"]⟩ (.unreadable (.system _)) := .unreadable rfl
  have returned :
      mixedSuite.run forbidden .comprehensive ⟨0, ["b.md"]⟩ =
        .ok (Ending.report mixedSuite .comprehensive ⟨0, ["b.md"]⟩ _) :=
    run_eq_ok_iff.mpr ⟨_, ends, trivial, rfl⟩
  obtain ⟨ending, -, unique, -, stopped, -⟩ := Suite.run_ends returned
  obtain rfl := unique _ ends
  obtain ⟨stops, same⟩ := stopped _ rfl
  exact ⟨_, returned, stops, by decide, same .empty .comprehensive⟩

end BundleLint
