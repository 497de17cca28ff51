import BundleLint.Proofs.FrontMatter.Partition
import BundleLint.Proofs.FrontMatter.Rejection
import BundleLint.Proofs.Suite.Escape
import BundleLint.Proofs.Yaml.Position

/-!
# Places of rejections

A front matter that is rejected at a place is wrong at a character of the file: the reader counts
lines and columns of the block only, but they are those of the file from its first line on. The
issue about it tells this place, counted from one.
-/

namespace BundleLint

namespace FrontMatter

open Text (lines EndsLine)
open Yaml (Document LiesIn Position byteOrderMark isAllowed width)

/-- A defect that the reader finds in a block after a number of characters: the place of a
complaint, or the root of a document that is no mapping. -/
inductive MarkedAt (content : List Char) : Defect → Nat → Prop
  | complaint {complaint : Yaml.Complaint}
      (read : reading content = .error (.complaint complaint)) :
      MarkedAt content (.complaint complaint) complaint.start
  | root {document : Document} (read : reading content = .ok (some document)) :
      MarkedAt content (.notMapping document.value) document.start

/-- A place is that of the character after `offset` others of a text: its line, and its column if
no byte-order mark is in that line. -/
def PointsTo (text : List Char) (position : Position) (offset : Nat) : Prop :=
  ∃ before line column, LiesIn (lines text) offset before line column ∧
    position.line = before.length ∧ position.column = width (line.take column) ∧
    (byteOrderMark ∉ line → position.column = column)

/-- A character of a line has the column that it takes, if no byte-order mark is in its line. -/
theorem width_take {line : List Char} {column : Nat} (column_lt : column < line.length)
    (unmarked : byteOrderMark ∉ line) : width (line.take column) = column := by
  have none_before : byteOrderMark ∉ line.take column := fun member =>
    unmarked (List.mem_of_mem_take member)
  rw [Yaml.width_eq_length none_before, List.length_take, Nat.min_eq_left column_lt.le]

theorem IsCut.closing_ne {text opening content closing body : List Char}
    (cut : IsCut text opening content closing body) : closing ≠ [] := by
  obtain ⟨blanks, rfl, -⟩ := cut.closing_delimits
  simp

/-- The content of a cut consists of whole lines. -/
theorem IsCut.content_ends {text opening content closing body : List Char}
    (cut : IsCut text opening content closing body) : EndsLine content := by
  have after_opening : lines text = [opening] ++ (lines content ++ closing :: lines body) :=
    cut.lines_eq
  obtain ⟨-, rest_lines, -, -⟩ := Text.lines_cut after_opening
  obtain ⟨-, -, -, ends⟩ := Text.lines_cut rest_lines
  rw [Text.lines_flatten] at ends
  exact ends (List.cons_ne_nil _ _)

/-- A place in the content of a cut points to its character in the whole text, at the end of the
content to the closing delimiter. -/
theorem IsCut.filePosition_pointsTo {text opening content closing body : List Char}
    (cut : IsCut text opening content closing body) (allowed : ∀ c ∈ content, isAllowed c)
    (offset : Nat) :
    PointsTo text (filePosition content offset)
        (opening.length + min offset content.length) ∧
      (filePosition content offset).line ≤ (lines content).length + 1 := by
  obtain ⟨before, line, column, ⟨⟨after, lines_eq⟩, offset_eq, column_lt⟩, before_le, place_eq⟩ :=
    Yaml.positionAfter_liesIn (lines body) allowed cut.content_ends cut.closing_ne offset
  have file_eq : filePosition content offset =
      { line := before.length + 1, column := width (line.take column) } := by
    rw [filePosition, place_eq]
  rw [file_eq]
  refine ⟨⟨opening :: before, line, column, ⟨⟨after, ?_⟩, ?_, column_lt⟩, rfl, rfl, ?_⟩, ?_⟩
  · rw [cut.lines_eq, List.cons_append, lines_eq]
    rfl
  · rw [List.flatten_cons, List.length_append, Nat.add_assoc, offset_eq]
  · exact width_take column_lt
  · exact Nat.succ_le_succ before_le

/-- A text is all body, or its front matter has no end, or it is cut. -/
theorem layout_cases (text : List Char) :
    layout text = .bodyOnly (dropMark text) ∨
      (layout text = .unterminated ∧
        ∃ opening later, lines (dropMark text) = opening :: later ∧ Delimits opening) ∨
      ∃ opening content closing body,
        IsCut (dropMark text) opening content closing body ∧
          layout text = .block content body := by
  by_cases plain : ∀ opening later, lines (dropMark text) = opening :: later → ¬Delimits opening
  · exact .inl (layout_of_plain plain)
  · push Not at plain
    obtain ⟨opening, later, lines_eq, opens⟩ := plain
    by_cases closes : ∃ line ∈ later, Delimits line
    · obtain ⟨content, closing, body, cut⟩ := exists_isCut lines_eq opens closes
      exact .inr (.inr ⟨opening, content, closing, body, cut, cut.layout_eq⟩)
    · push Not at closes
      exact .inr (.inl ⟨layout_of_open lines_eq opens closes, opening, later, lines_eq, opens⟩)

/-- A block that is rejected holds only characters that a document may hold: others escape. -/
theorem allowed_of_rejected {content : List Char} {rejection : Rejection}
    (rejected : settings content = .error (.rejected rejection)) : ∀ c ∈ content, isAllowed c := by
  rw [← firstForbidden?_eq_none_iff]
  cases found : Yaml.firstForbidden? content with
  | none => rfl
  | some place =>
      rw [settings_eq, reading_of_forbidden found] at rejected
      cases rejected

/-- A block that is rejected at a place is so where the reader found a defect. -/
theorem markedAt_of_rejected {content : List Char} {rejection : Rejection} {position : Position}
    (rejected : settings content = .error (.rejected rejection))
    (placed : rejection.position = some position) :
    ∃ offset, MarkedAt content rejection.defect offset ∧
      position = filePosition content offset := by
  rw [settings_eq] at rejected
  cases read : reading content with
  | error fault =>
      rw [read] at rejected
      cases fault with
      | complaint complaint =>
          cases rejected
          cases placed
          exact ⟨complaint.start, .complaint read, rfl⟩
      | value | tooDeep =>
          cases rejected
          cases placed
      | _ => cases rejected
  | ok found =>
      rw [read] at rejected
      cases found with
      | none => cases rejected
      | some document =>
          dsimp only at rejected
          split at rejected
          · cases rejected
          · cases rejected
          · cases rejected
            cases placed
            exact ⟨document.start, .root read, rfl⟩

/-- The start of a text points to its first character. -/
theorem pointsTo_start {text opening : List Char} {later : List (List Char)}
    (lines_eq : lines text = opening :: later) (opens : Delimits opening) :
    PointsTo text { line := 0, column := 0 } 0 := by
  obtain ⟨blanks, rfl, -⟩ := opens
  exact ⟨[], _, 0, ⟨⟨later, lines_eq⟩, rfl, Nat.zero_lt_succ _⟩, rfl, rfl, fun _ => rfl⟩

/-- A file that is rejected at a place has no end of its front matter, or it is cut and the place
points to the character of the file that the reader was at. -/
theorem pointsTo_of_rejected {text : List Char} {rejection : Rejection} {position : Position}
    (rejected : split text = .error (.rejected rejection))
    (placed : rejection.position = some position) :
    (rejection.defect = .unterminated ∧ PointsTo (dropMark text) position 0) ∨
      ∃ opening content closing body offset,
        IsCut (dropMark text) opening content closing body ∧
          MarkedAt content rejection.defect offset ∧ position = filePosition content offset ∧
          PointsTo (dropMark text) position (opening.length + min offset content.length) ∧
          position.line ≤ (lines content).length + 1 := by
  rcases layout_cases text with layout_eq | ⟨layout_eq, opening, later, lines_eq, opens⟩ | cut
  · rw [split, layout_eq] at rejected
    cases rejected
  · rw [split, layout_eq] at rejected
    cases rejected
    cases placed
    exact .inl ⟨rfl, pointsTo_start lines_eq opens⟩
  · obtain ⟨opening, content, closing, body, cut, -⟩ := cut
    rw [split_of_isCut cut] at rejected
    have content_rejected : settings content = .error (.rejected rejection) := by
      cases settings_eq : settings content with
      | ok config =>
          rw [settings_eq] at rejected
          cases rejected
      | error failure =>
          rw [settings_eq] at rejected
          cases rejected
          rfl
    obtain ⟨offset, marked, rfl⟩ := markedAt_of_rejected content_rejected placed
    have allowed := allowed_of_rejected content_rejected
    exact .inr ⟨opening, content, closing, body, offset, cut, marked, rfl,
      cut.filePosition_pointsTo allowed offset⟩

end FrontMatter

open FrontMatter (Rejection IsCut MarkedAt PointsTo dropMark filePosition)

/-- The issue about a rejection tells its place, counted from one, if there is one. -/
theorem syntaxIssue_place (path : Path) (rejection : Rejection) :
    (∀ position, rejection.position = some position →
      (syntaxIssue path rejection).line = some (position.line + 1) ∧
        (syntaxIssue path rejection).message =
          "YAML syntax error: " ++ rejection.message ++
            (" (line " ++ toString (position.line + 1) ++ ", column " ++
              toString (position.column + 1) ++ ")")) ∧
      (rejection.position = none →
        (syntaxIssue path rejection).line = none ∧
          (syntaxIssue path rejection).message = "YAML syntax error: " ++ rejection.message) := by
  unfold syntaxIssue
  cases rejection.position with
  | none => exact ⟨nofun, fun _ => ⟨rfl, rfl⟩⟩
  | some position =>
      refine ⟨?_, nofun⟩
      rintro _ ⟨⟩
      exact ⟨rfl, rfl⟩

namespace Suite

/-- A rejection at a place points into the file: to its first character if the front matter has no
end, else to the character that the reader was at, which is in the closing delimiter at the latest.
The one issue of a run tells this place, counted from one, and no place if there is none. -/
theorem rejected_place {text : List Char} {rejection : Rejection}
    (rejected : FrontMatter.split text = .error (.rejected rejection)) :
    (∀ position, rejection.position = some position →
      (rejection.defect = .unterminated ∧ PointsTo (dropMark text) position 0) ∨
        ∃ opening content closing body offset,
          IsCut (dropMark text) opening content closing body ∧
            MarkedAt content rejection.defect offset ∧ position = filePosition content offset ∧
            PointsTo (dropMark text) position (opening.length + min offset content.length) ∧
            position.line ≤ (Text.lines content).length + 1) ∧
      ∀ (files : Files) (path : Path), openText files path = .text text →
        ∃ issue,
          (∀ (suite : Suite) (mode : CheckMode),
            suite.run files mode path = .ok { Report.start path mode with issues := [issue] }) ∧
          issue.code = "YAML_SYNTAX" ∧
          (∀ position, rejection.position = some position →
            issue.line = some (position.line + 1) ∧
              issue.message =
                "YAML syntax error: " ++ rejection.message ++
                  (" (line " ++ toString (position.line + 1) ++ ", column " ++
                    toString (position.column + 1) ++ ")")) ∧
          (rejection.position = none →
            issue.line = none ∧
              issue.message = "YAML syntax error: " ++ rejection.message) := by
  refine ⟨fun position => FrontMatter.pointsTo_of_rejected rejected, ?_⟩
  intro files path opened
  refine ⟨syntaxIssue path rejection, ?_, syntaxIssue_code path rejection,
    syntaxIssue_place path rejection⟩
  intro suite mode
  exact run_of_rejected opened rejected suite mode

/-- A list that is not closed, after a comment that ends at a line separator. -/
def openListText : String := "\ufeff---\n# x\u2028a: [\n--- \nbody\n"

/-- The rejection with which a text fails to split. -/
def rejection? : Except FrontMatter.Failure FrontMatter.Parts → Option FrontMatter.Rejection
  | .error (.rejected rejection) => some rejection
  | .error (.escaped _) => none
  | .ok _ => none

theorem rejection?_eq_some_iff {parted : Except FrontMatter.Failure FrontMatter.Parts}
    {rejection : FrontMatter.Rejection} :
    rejection? parted = some rejection ↔ parted = .error (.rejected rejection) := by
  rcases parted with (_ | _) | _ <;> simp [rejection?]

theorem rejected_place_closing :
    ∃ rejection position issue,
      openText (fun _ => .file openListText.toUTF8.toList) ⟨0, ["b.md"]⟩ =
          .text openListText.toList ∧
        FrontMatter.split openListText.toList = .error (.rejected rejection) ∧
        rejection.position = some position ∧ position = { line := 3, column := 0 } ∧
        (∃ opening content closing body offset,
          IsCut (dropMark openListText.toList) opening content closing body ∧
            PointsTo (dropMark openListText.toList) position
              (opening.length + min offset content.length)) ∧
        issue.line = some 4 ∧
        issue.message =
          "YAML syntax error: " ++ rejection.message ++ " (line 4, column 1)" ∧
        (standard []).run (fun _ => .file openListText.toUTF8.toList) .fast ⟨0, ["b.md"]⟩ =
          .ok { Report.start ⟨0, ["b.md"]⟩ .fast with issues := [issue] } := by
  have opened :
      openText (fun _ => .file openListText.toUTF8.toList) ⟨0, ["b.md"]⟩ =
        .text openListText.toList := by
    decide +kernel
  have place_known :
      (rejection? (FrontMatter.split openListText.toList)).any (fun rejection =>
        rejection.position == some { line := 3, column := 0 } &&
          rejection.message != FrontMatter.Defect.unterminated.message) = true := by
    decide +kernel
  obtain ⟨rejection, found, placed, terminated⟩ :
      ∃ rejection, rejection? (FrontMatter.split openListText.toList) = some rejection ∧
        rejection.position = some { line := 3, column := 0 } ∧
        rejection.message ≠ FrontMatter.Defect.unterminated.message := by
    simpa [Option.any_eq_true] using place_known
  have rejected := rejection?_eq_some_iff.mp found
  obtain ⟨points, reports⟩ := rejected_place rejected
  obtain ⟨issue, run_eq, -, told, -⟩ := reports _ _ opened
  obtain ⟨line_eq, message_eq⟩ := told _ placed
  have place_text :
      " (line " ++ toString (3 + 1) ++ ", column " ++ toString (0 + 1) ++ ")" =
        " (line 4, column 1)" := by
    decide
  rw [place_text] at message_eq
  refine ⟨rejection, _, issue, opened, rejected, placed, rfl, ?_, line_eq, message_eq,
    run_eq _ _⟩
  rcases points _ placed with ⟨defect_eq, -⟩ | cut
  · exact absurd (congrArg FrontMatter.Defect.message defect_eq) terminated
  · obtain ⟨opening, content, closing, body, offset, cut, -, -, here, -⟩ := cut
    exact ⟨opening, content, closing, body, offset, cut, here⟩

end Suite

end BundleLint
