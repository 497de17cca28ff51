import BundleLint.FileTree
import BundleLint.Report.Json
import BundleLint.Suite

/-!
# Sessions

Sequences of steps that create suites, register checks, run suites and change files. A run depends
on the registrations of its own suite, on the files at that moment and on the mode.
-/

namespace BundleLint

/-- What a session has made so far. -/
structure Session where
  /-- Suites by name, the latest one first. -/
  suites : List (String × Suite)
  /-- The files. -/
  tree : FileTree
  /-- Reports in the order of the runs. -/
  reports : List Report

/-- A step of a session. -/
inductive SessionStep where
  /-- Makes a suite with the built-in checks but for some. -/
  | create (id : String) (skipped : List String)
  /-- Makes a suite without checks. -/
  | createEmpty (id : String)
  /-- Registers a fast check. -/
  | addFast (id : String) (check : NamedCheck)
  /-- Registers a slow check. -/
  | addSlow (id : String) (check : NamedCheck)
  /-- Asks for the names of the checks. -/
  | names (id : String)
  /-- Runs a suite on a file. -/
  | run (id : String) (mode : CheckMode) (path : Path)
  /-- Asks for the text of the latest report. -/
  | format
  /-- Asks for the document of all reports at a time. -/
  | json (time : String)
  /-- Puts something at a path. -/
  | write (path : Path) (item : Item)
  /-- Removes what is at a path. -/
  | delete (path : Path)

/-- What a step gives. -/
inductive SessionAnswer where
  /-- Names of the fast and of the slow checks of a suite. -/
  | names (fast slow : List String)
  /-- The report of a run. -/
  | report (report : Report)
  /-- A fault that broke a run off. -/
  | fault (fault : RunFault)
  /-- Text. -/
  | text (text : String)
  /-- Nothing. -/
  | nothing

namespace Session

/-- The session before its first step. -/
def initial : Session := ⟨[], .empty, []⟩

/-- The suite with a name; one that was never made has no checks. -/
def suite (session : Session) (id : String) : Suite :=
  match session.suites.find? fun (known, _) => known == id with
  | some (_, suite) => suite
  | none => .empty

/-- Gives a name to a suite and answers with the names of its checks. -/
def bind (session : Session) (id : String) (suite : Suite) : SessionAnswer × Session :=
  let others := session.suites.filter fun (known, _) => known != id
  (.names (suite.fast.map (·.name)) (suite.slow.map (·.name)),
    { session with suites := (id, suite) :: others })

/-- Takes a step. -/
def step (session : Session) : SessionStep → SessionAnswer × Session
  | .create id skipped => session.bind id (.standard skipped)
  | .createEmpty id => session.bind id .empty
  | .addFast id check => session.bind id ((session.suite id).addFast check)
  | .addSlow id check => session.bind id ((session.suite id).addSlow check)
  | .names id =>
    let suite := session.suite id
    (.names (suite.fast.map (·.name)) (suite.slow.map (·.name)), session)
  | .run id mode path =>
    match (session.suite id).run session.tree.status mode path with
    | .ok report => (.report report, { session with reports := session.reports ++ [report] })
    | .error fault => (.fault fault, session)
  | .format =>
    match session.reports.getLast? with
    | some report => (.text report.text, session)
    | none => (.nothing, session)
  | .json time => (.text (reportsJson time session.reports).pretty, session)
  | .write path item => (.nothing, { session with tree := session.tree.write path item })
  | .delete path => (.nothing, { session with tree := session.tree.delete path })

/-- Takes steps one after the other and gives their answers. -/
def steps (session : Session) : List SessionStep → List SessionAnswer × Session
  | [] => ([], session)
  | step :: rest =>
    let (answer, session) := session.step step
    let (answers, session) := session.steps rest
    (answer :: answers, session)

end Session

end BundleLint
