import BundleLint.Proofs.Json.Writing
import BundleLint.Report.Json

/-!
# The document of reports tells the reports

Two lists of reports have documents of the same text exactly if they agree report by report, in
the written path and in everything else. A hint is shown by its units, which do not tell a pair of
halves from the character that they make, so this is about hints of characters.
-/

namespace BundleLint

open Json (Tells string_tells number_tells text_tells ofOption_tells array_tells)

/-- Two issues that are the same but for hints whose units are the same. -/
structure Issue.Alike (left right : Issue) : Prop where
  severity : left.severity = right.severity
  code : left.code = right.code
  message : left.message = right.message
  filePath : left.filePath = right.filePath
  line : left.line = right.line
  fixHint : Option.Rel (fun first second => Text.units first = Text.units second)
    left.fixHint right.fixHint

/-- A hint of characters, without halves of any, or none. -/
def IsWhole (hint : Option (List CodePoint)) : Prop :=
  ∀ text, hint = some text → ∃ characters : List Char, text = Text.points characters

/-- Every hint is a text of characters. -/
def Report.HasWholeHints (report : Report) : Prop :=
  ∀ issue ∈ report.issues, IsWhole issue.fixHint

/-- Two reports of the same content, whose paths are written in the same way. -/
structure Report.Agree (left right : Report) : Prop where
  path : left.path.text = right.path.text
  mode : left.mode = right.mode
  kind : left.kind = right.kind
  checksRun : left.checksRun = right.checksRun
  issues : left.issues = right.issues
  durationMs : left.durationMs = right.durationMs

/-! ## From the document to the reports -/

theorem Severity.text_inj {left right : Severity} (same : left.text = right.text) :
    left = right := by
  cases left <;> cases right <;> simp [text] at same ⊢

theorem CheckMode.text_inj {left right : CheckMode} (same : left.text = right.text) :
    left = right := by
  cases left <;> cases right <;> simp [text] at same ⊢

theorem BundleKind.text_inj {left right : BundleKind} (same : left.text = right.text) :
    left = right := by
  cases left <;> cases right <;> simp [text] at same ⊢

theorem eq_of_rel_eq {α : Type} {first second : Option α} (related : Option.Rel Eq first second) :
    first = second := by
  cases related with
  | some same => rw [same]
  | none => rfl

/-- The document of an issue tells all of the issue. -/
theorem Issue.json_tells : Tells Issue.json Issue.Alike := by
  intro level left right same
  have written := Json.write_object_inj same
  simp only [List.map_cons, List.map_nil, List.cons.injEq, Json.writtenMember_inj] at written
  obtain ⟨severity, code, message, filePath, line, fixHint, -⟩ := written
  exact
    { severity := Severity.text_inj (string_tells _ _ _ severity)
      code := string_tells _ _ _ code
      message := string_tells _ _ _ message
      filePath := eq_of_rel_eq (ofOption_tells nofun string_tells _ _ _ filePath)
      line := eq_of_rel_eq (ofOption_tells nofun number_tells _ _ _ line)
      fixHint := ofOption_tells nofun text_tells _ _ _ fixHint }

/-- Lists that are related place by place are related in another way if their members are. -/
theorem forall₂_of_mem {α : Type} {related implied : α → α → Prop} {first second : List α}
    (each : List.Forall₂ related first second)
    (implies : ∀ x ∈ first, ∀ y ∈ second, related x y → implied x y) :
    List.Forall₂ implied first second := by
  induction each with
  | nil => exact .nil
  | cons here _ ih =>
      refine .cons (implies _ (by simp) _ (by simp) here) (ih fun x found y other => ?_)
      exact implies x (List.mem_cons_of_mem _ found) y (List.mem_cons_of_mem _ other)

/-- Hints of characters have the same units only if they are the same. -/
theorem eq_of_units {first second : Option (List CodePoint)} (first_whole : IsWhole first)
    (second_whole : IsWhole second)
    (units : Option.Rel (fun first second => Text.units first = Text.units second) first second) :
    first = second := by
  cases units with
  | none => rfl
  | some same =>
      obtain ⟨text, rfl⟩ := first_whole _ rfl
      obtain ⟨other, rfl⟩ := second_whole _ rfl
      rw [Text.units_points_inj same]

theorem Issue.Alike.eq {left right : Issue} (alike : left.Alike right)
    (left_whole : IsWhole left.fixHint) (right_whole : IsWhole right.fixHint) : left = right := by
  have hints := eq_of_units left_whole right_whole alike.fixHint
  rw [Issue.mk.injEq]
  exact ⟨alike.severity, alike.code, alike.message, alike.filePath, alike.line, hints⟩

/-- The document of a report tells all of the report but halves of characters in hints. -/
theorem Report.json_tells : Tells Report.json fun left right =>
    left.HasWholeHints → right.HasWholeHints → left.Agree right := by
  intro level left right same left_whole right_whole
  have written := Json.write_object_inj same
  simp only [List.map_cons, List.map_nil, List.cons.injEq, Json.writtenMember_inj] at written
  obtain ⟨path, mode, kind, -, -, checksRun, issues, -, -, -, durationMs, -⟩ := written
  have kind_tells : Tells (fun kind => Json.string (BundleKind.text kind)) Eq :=
    fun _ _ _ same => BundleKind.text_inj (string_tells _ _ _ same)
  have issues_eq := forall₂_of_mem (array_tells Issue.json_tells _ _ _ issues)
    fun issue found other there alike =>
      alike.eq (left_whole issue found) (right_whole other there)
  exact
    { path := string_tells _ _ _ path
      mode := CheckMode.text_inj (string_tells _ _ _ mode)
      kind := eq_of_rel_eq (ofOption_tells nofun kind_tells _ _ _ kind)
      checksRun := List.forall₂_eq_eq_eq ▸ array_tells string_tells _ _ _ checksRun
      issues := List.forall₂_eq_eq_eq ▸ issues_eq
      durationMs := number_tells _ _ _ durationMs }

/-! ## From the reports to the document -/

theorem Report.Agree.json_eq {left right : Report} (agree : left.Agree right) :
    left.json = right.json := by
  simp [Report.json, Report.passed, Report.hasErrors, Report.errors, Report.warnings,
    Report.infos, Report.ofSeverity, agree.path, agree.mode, agree.kind, agree.checksRun,
    agree.issues, agree.durationMs]

theorem map_eq_of_agree {Shown : Type} {view : Report → Shown} {first second : List Report}
    (agree : List.Forall₂ Report.Agree first second)
    (respects : ∀ left right : Report, left.Agree right → view left = view right) :
    first.map view = second.map view := by
  induction agree with
  | nil => rfl
  | cons same _ ih => rw [List.map_cons, List.map_cons, respects _ _ same, ih]

theorem Summary.of_eq {first second : List Report}
    (agree : List.Forall₂ Report.Agree first second) : Summary.of first = Summary.of second := by
  have errors := map_eq_of_agree agree fun left right same =>
    show left.errors.length = right.errors.length by
      rw [Report.errors, Report.ofSeverity, same.issues, ← Report.ofSeverity, ← Report.errors]
  have warnings := map_eq_of_agree agree fun left right same =>
    show left.warnings.length = right.warnings.length by
      rw [Report.warnings, Report.ofSeverity, same.issues, ← Report.ofSeverity, ← Report.warnings]
  have verdicts := map_eq_of_agree agree fun left right same =>
    show (!left.passed) = !right.passed by
      rw [Report.passed, Report.hasErrors, same.issues, ← Report.hasErrors, ← Report.passed]
  have failed := congrArg (List.countP id) verdicts
  rw [List.countP_map, List.countP_map, Function.id_comp, List.countP_eq_length_filter,
    List.countP_eq_length_filter] at failed
  simp only [Summary.of, errors, warnings, failed, agree.length_eq]

theorem reportsJson_eq {first second : List Report} (agree : List.Forall₂ Report.Agree first second)
    (time : String) : reportsJson time first = reportsJson time second := by
  rw [reportsJson, reportsJson, Summary.of_eq agree,
    map_eq_of_agree agree fun _ _ same => same.json_eq]

/-! ## The whole document -/

theorem reportsJson_tells {time : String} {first second : List Report}
    (same : (reportsJson time first).pretty = (reportsJson time second).pretty)
    (whole : ∀ report ∈ first ++ second, report.HasWholeHints) :
    List.Forall₂ Report.Agree first second := by
  have written := Json.write_object_inj (String.ofList_injective same)
  simp only [List.map_cons, List.map_nil, List.cons.injEq, Json.writtenMember_inj] at written
  obtain ⟨-, -, -, -, reports, -⟩ := written
  refine forall₂_of_mem (array_tells Report.json_tells _ _ _ reports) ?_
  intro left here right there agree
  exact agree (whole left (List.mem_append_left second here))
    (whole right (List.mem_append_right first there))

/-- Lists of reports have documents of the same text exactly if they agree report by report, and
every character of such a text is in the range of ASCII. -/
theorem reportsJson_pretty_eq_iff {first second : List Report}
    (whole : ∀ report ∈ first ++ second, report.HasWholeHints) (time : String) :
    ((reportsJson time first).pretty = (reportsJson time second).pretty ↔
        List.Forall₂ Report.Agree first second) ∧
      ∀ c ∈ (reportsJson time first).pretty.toList, c.toNat < 128 := by
  refine ⟨⟨fun same => reportsJson_tells same whole, fun agree => ?_⟩, ?_⟩
  · rw [reportsJson_eq agree time]
  · rw [Json.pretty, String.toList_ofList]
    exact Json.isAscii_write (reportsJson time first) 0

/-- A report with an issue that has the given hint. -/
def hintedReport (hint : Option (List CodePoint)) : Report :=
  { Report.start ⟨0, ["b.md"]⟩ .fast with
    issues :=
      [{ severity := .info, code := "NOTE", message := "a \x22tag\x22 \x7f 😀", filePath := some ""
         line := none, fixHint := hint }] }

theorem reportsJson_pretty_eq_iff_emptyHint :
    (∀ report ∈ [hintedReport none] ++ [hintedReport (some [])], report.HasWholeHints) ∧
      (reportsJson "" [hintedReport none]).pretty ≠
        (reportsJson "" [hintedReport (some [])]).pretty := by
  have whole : ∀ report ∈ [hintedReport none] ++ [hintedReport (some [])],
      report.HasWholeHints := by
    have empty_whole : (hintedReport (some [])).HasWholeHints := by
      rintro issue (_ | ⟨_, ⟨⟩⟩) text ⟨⟩
      exact ⟨[], rfl⟩
    have none_whole : (hintedReport none).HasWholeHints := by
      rintro issue (_ | ⟨_, ⟨⟩⟩) text ⟨⟩
    simp [empty_whole, none_whole]
  refine ⟨whole, fun same => ?_⟩
  have agree := (reportsJson_pretty_eq_iff whole "").1.mp same
  cases agree with
  | cons here _ => simpa [hintedReport] using here.issues

end BundleLint
