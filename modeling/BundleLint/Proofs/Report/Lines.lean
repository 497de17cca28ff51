import BundleLint.Proofs.Report.Json
import BundleLint.Proofs.Text.Split
import BundleLint.Proofs.Text.Trim

/-!
# The lines of the text of a report

The text of a report consists of the lines of its issues and of the line that sums up. A hint begins
with a mark, and its later lines are indented, so its lines are the lines that it is given with,
each with something before it. In the text itself surrogates are shown as characters, and the same
text with the surrogates as they are is described here.
-/

namespace BundleLint

open Text (shown points ofString)

/-- The character at which a text is cut into lines. -/
abbrev CodePoint.lineFeed : CodePoint := .char '\n'

/-- The character at which a line is cut into words. -/
abbrev CodePoint.space : CodePoint := .char ' '

open CodePoint (lineFeed space)

theorem char_mem_ofString {c : Char} {s : String} : .char c ∈ ofString s ↔ c ∈ s.toList := by
  simp [ofString, points]

theorem ofString_append (first second : String) :
    ofString (first ++ second) = ofString first ++ ofString second := by
  simp [ofString, points]

/-- A view of texts that keeps them apart at a separator shows joined texts joined. -/
theorem view_intercalate {α β : Type} {view : List α → List β} {separator : α} {shownAs : β}
    (join : ∀ front back, view (front ++ separator :: back) = view front ++ shownAs :: view back)
    {parts : List (List α)} (parts_ne : parts ≠ []) :
    view ([separator].intercalate parts) = [shownAs].intercalate (parts.map view) := by
  induction parts with
  | nil => exact absurd rfl parts_ne
  | cons first others ih =>
      cases others with
      | nil => simp
      | cons second others =>
          rw [List.intercalate_cons_cons, List.append_assoc, List.singleton_append, join, ih nofun,
            List.map_cons, List.map_cons, List.map_cons, List.intercalate_cons_cons,
            List.append_assoc, List.singleton_append]

/-- A number is written in digits only. -/
theorem not_mem_toDigits {c : Char} (other : c.isDigit = false) (n : Nat) :
    c ∉ Nat.toDigits 10 n := by
  intro member
  have digit := Nat.isDigit_of_mem_toDigits (by decide) (by decide) member
  rw [digit] at other
  cases other

/-! ## The text of an issue and its lines -/

namespace Issue

/-- What stands before the later lines of a hint. -/
def hintIndent : List CodePoint := points (List.replicate 7 ' ')

/-- Indents the lines of a text after the first one, surrogates and all. -/
def hangPoints (text : List CodePoint) : List CodePoint :=
  text.flatMap fun point => if point == lineFeed then lineFeed :: hintIndent else [point]

/-- What the text of an issue says of it besides the severity and the hint. -/
def header (issue : Issue) : String :=
  issue.code ++ ": " ++ issue.location ++ ": " ++ issue.message

/-- The hint of an issue, if there is one and it is not empty. -/
def hint? (issue : Issue) : Option (List CodePoint) :=
  issue.fixHint.filter fun hint => !hint.isEmpty

/-- The line that opens an issue. -/
def heading (issue : Issue) : List CodePoint :=
  ofString (issue.severity.tag ++ " " ++ issue.header)

/-- The text of a hint, in which surrogates stand as they are. -/
def spelledHint : Option (List CodePoint) → List CodePoint
  | none => []
  | some hint => ofString "\n  Fix: " ++ hangPoints hint

/-- The text of an issue, in which the surrogates of a hint stand as they are. -/
def spelled (issue : Issue) : List CodePoint :=
  issue.heading ++ spelledHint issue.hint?

theorem hang_feed (rest : List Char) :
    hang ('\n' :: rest) = '\n' :: (List.replicate 7 ' ' ++ hang rest) := rfl

theorem hang_inner {c : Char} (inner : c ≠ '\n') (rest : List Char) :
    hang (c :: rest) = c :: hang rest := by
  simp [hang, inner]

theorem hangPoints_feed (rest : List CodePoint) :
    hangPoints (lineFeed :: rest) = lineFeed :: (hintIndent ++ hangPoints rest) := rfl

theorem hangPoints_inner {point : CodePoint} (inner : point ≠ lineFeed) (rest : List CodePoint) :
    hangPoints (point :: rest) = point :: hangPoints rest := by
  simp [hangPoints, inner]

theorem hangPoints_surrogate (half : Fin 2048) (rest : List CodePoint) :
    hangPoints (.surrogate half :: rest) = .surrogate half :: hangPoints rest := by
  have half_ne : CodePoint.surrogate half ≠ lineFeed := nofun
  exact hangPoints_inner half_ne rest

theorem hang_standIn {c : Char} (stands_in : Text.IsStandIn c) (rest : List Char) :
    hang (c :: rest) = c :: hang rest := by
  refine hang_inner ?_ rest
  rintro rfl
  exact absurd stands_in (by decide)

/-- Indenting neither parts the halves of a character nor finds a line feed in them. -/
theorem shown_hangPoints (text : List CodePoint) : shown (hangPoints text) = hang (shown text) := by
  have replacement : Text.IsStandIn '\ufffd' := by decide
  fun_induction shown text with
  | case1 => rfl
  | case2 c rest ih =>
      by_cases feeds : c = '\n'
      · subst feeds
        rw [hangPoints_feed, hang_feed, shown, hintIndent, Text.shown_points_append, ih]
      · rw [hangPoints_inner (by simpa using feeds), hang_inner feeds, shown, ih]
  | case3 first second rest halves ih =>
      have bounds : first < 1024 ∧ 1024 ≤ second := by simpa using halves
      have joined := Text.joinHalves_isStandIn bounds.1 second.isLt
      rw [hangPoints_surrogate, hangPoints_surrogate, hang_standIn joined, ← ih, shown,
        if_pos halves]
  | case4 first second rest apart ih =>
      rw [hangPoints_surrogate] at ih ⊢
      rw [hangPoints_surrogate, hang_standIn replacement, ← ih, shown, if_neg apart]
  | case5 first rest lone ih =>
      rw [hangPoints_surrogate, hang_standIn replacement, ← ih, shown]
      intro second later starts
      -- What follows is no half, and neither is what it becomes.
      cases rest with
      | nil => cases starts
      | cons point rest =>
          cases point with
          | char c => by_cases feeds : c = '\n' <;> simp [hangPoints, feeds] at starts
          | surrogate half => exact lone half rest rfl

theorem shown_spelledHint (issue : Issue) :
    shown (spelledHint issue.hint?) = (hintText issue.fixHint).toList := by
  rw [hint?]
  cases issue.fixHint with
  | none => rfl
  | some hint =>
      rw [Option.filter_some]
      cases empty : hint.isEmpty with
      | true => simp [empty, spelledHint, hintText, shown]
      | false =>
          simp [empty, spelledHint, hintText, ofString, Text.shown_points_append,
            shown_hangPoints]

theorem text_eq (issue : Issue) :
    issue.text = issue.severity.tag ++ " " ++ issue.header ++ hintText issue.fixHint := by
  simp only [text, header, String.append_assoc]

theorem shown_spelled (issue : Issue) : shown issue.spelled = issue.text.toList := by
  rw [text_eq, String.toList_append, spelled, heading, ofString, Text.shown_points_append,
    shown_spelledHint]

theorem hangPoints_points (text : List Char) : hangPoints (points text) = points (hang text) := by
  induction text with
  | nil => rfl
  | cons c rest ih =>
      rw [points, List.map_cons, ← points]
      by_cases feeds : c = '\n'
      · subst feeds
        rw [hangPoints_feed, hang_feed, ih]
        simp [points, hintIndent]
      · rw [hangPoints_inner (by simpa using feeds), hang_inner feeds, ih]
        rfl

theorem spelledHint_of_whole {issue : Issue} (whole : IsWhole issue.fixHint) :
    spelledHint issue.hint? = ofString (hintText issue.fixHint) := by
  rw [hint?]
  cases hint_eq : issue.fixHint with
  | none => rfl
  | some hint =>
      rw [Option.filter_some]
      cases empty : hint.isEmpty with
      | true => simp [empty, spelledHint, hintText, ofString, points]
      | false =>
          obtain ⟨characters, rfl⟩ := whole hint hint_eq
          have hint_text : hintText (some (points characters)) =
              "\n  Fix: " ++ String.ofList (hang characters) := by
            simp [hintText, empty, Text.shown_points]
          rw [hint_text, ofString_append]
          simp [spelledHint, ofString, hangPoints_points]

/-- Without halves of characters, the text is what it is shown as. -/
theorem spelled_of_whole {issue : Issue} (whole : IsWhole issue.fixHint) :
    issue.spelled = ofString issue.text := by
  rw [spelled, spelledHint_of_whole whole, heading, ← ofString_append, ← text_eq]

/-- The lines of an indented text, given the lines of the text. -/
def hangLines : List (List CodePoint) → List (List CodePoint)
  | [] => []
  | first :: others => first :: others.map (hintIndent ++ ·)

theorem lineFeed_not_mem_hintIndent : lineFeed ∉ hintIndent := by decide

theorem splitOn_hangPoints (text : List CodePoint) :
    (hangPoints text).splitOn lineFeed = hangLines (text.splitOn lineFeed) := by
  induction text with
  | nil => rfl
  | cons point rest ih =>
      by_cases feeds : point = lineFeed
      · subst feeds
        rw [hangPoints_feed, List.splitOn_cons_eq_if_modifyHead, if_pos (by simp),
          Text.splitOn_append_of_not_mem lineFeed_not_mem_hintIndent, ih,
          List.splitOn_cons_eq_if_modifyHead, if_pos (by simp)]
        cases rest.splitOn lineFeed <;> rfl
      · have inner : (point == lineFeed) = false := by simpa using feeds
        rw [hangPoints_inner feeds, List.splitOn_cons_eq_if_modifyHead, inner, if_neg nofun, ih,
          List.splitOn_cons_eq_if_modifyHead, inner, if_neg nofun]
        cases rest.splitOn lineFeed <;> rfl

/-- The lines of a hint, with the mark before the first one. -/
def hintLines : Option (List CodePoint) → List (List CodePoint)
  | none => []
  | some hint => (hangLines (hint.splitOn lineFeed)).modifyHead (ofString "  Fix: " ++ ·)

/-- The lines of the text of an issue. -/
def lines (issue : Issue) : List (List CodePoint) :=
  issue.heading :: hintLines issue.hint?

/-- An issue whose code, message and path of the file are on one line each. -/
structure IsLined (issue : Issue) : Prop where
  code : '\n' ∉ issue.code.toList
  message : '\n' ∉ issue.message.toList
  filePath : ∀ path ∈ issue.filePath, '\n' ∉ path.toList

variable {issue : Issue}

theorem IsLined.shownPath (lined : issue.IsLined) : '\n' ∉ issue.shownPath.toList := by
  have unknown : '\n' ∉ "<unknown>".toList := by decide
  unfold Issue.shownPath
  cases path_eq : issue.filePath with
  | none => exact unknown
  | some path =>
      dsimp only
      split
      · exact unknown
      · exact lined.filePath path path_eq

theorem IsLined.location (lined : issue.IsLined) : '\n' ∉ issue.location.toList := by
  unfold Issue.location
  cases issue.line with
  | none => exact lined.shownPath
  | some line => simp [lined.shownPath, not_mem_toDigits]

theorem IsLined.header (lined : issue.IsLined) : '\n' ∉ issue.header.toList := by
  simp [Issue.header, lined.code, lined.location, lined.message]

theorem IsLined.splitOn_spelled (lined : issue.IsLined) :
    issue.spelled.splitOn lineFeed = issue.lines := by
  have heading_free : lineFeed ∉ issue.heading := by
    have tag_free : '\n' ∉ issue.severity.tag.toList := by cases issue.severity <;> decide
    simp [heading, char_mem_ofString, tag_free, lined.header]
  have mark_free : lineFeed ∉ ofString "  Fix: " := by decide
  rw [spelled, lines]
  cases issue.hint? with
  | none => rw [spelledHint, List.append_nil, List.splitOn_eq_singleton heading_free, hintLines]
  | some hint =>
      have mark_eq : ofString "\n  Fix: " = lineFeed :: ofString "  Fix: " := rfl
      rw [spelledHint, mark_eq, List.cons_append,
        List.splitOn_append_cons_self_of_not_mem heading_free,
        Text.splitOn_append_of_not_mem mark_free, splitOn_hangPoints, hintLines]

end Issue

/-! ## The text of a report and its lines -/

namespace Report

/-- The text of a report, in which the surrogates of hints stand as they are. -/
def spelled (report : Report) : List CodePoint :=
  [lineFeed].intercalate (report.issues.map Issue.spelled ++ [ofString report.summary])

/-- The lines of a report as they are written, joined to its text. -/
theorem toList_text (report : Report) : report.text.toList =
    ['\n'].intercalate ((report.issues.map Issue.text ++ [report.summary]).map String.toList) :=
  String.toList_intercalate

/-- The text of a report is how the code points are shown. -/
theorem shown_spelled (report : Report) : shown report.spelled = report.text.toList := by
  have issues_shown : (report.issues.map Issue.spelled).map shown =
      (report.issues.map Issue.text).map String.toList := by
    rw [List.map_map, List.map_map]
    exact List.map_congr_left fun issue _ => issue.shown_spelled
  have summary_shown : shown (ofString report.summary) = report.summary.toList :=
    Text.shown_points _
  rw [spelled, view_intercalate (Text.shown_append_char · '\n') (by simp), toList_text,
    List.map_append, issues_shown, List.map_append, List.map_singleton, summary_shown,
    List.map_singleton]

/-- Without halves of characters, the text is what it is shown as. -/
theorem spelled_of_whole {report : Report} (whole : report.HasWholeHints) :
    report.spelled = ofString report.text := by
  have issues_eq : report.issues.map Issue.spelled =
      (report.issues.map Issue.text).map ofString := by
    rw [List.map_map]
    exact List.map_congr_left fun issue member => Issue.spelled_of_whole (whole issue member)
  have apart (front back : List Char) :
      points (front ++ '\n' :: back) = points front ++ lineFeed :: points back := by
    simp [points]
  calc report.spelled
    _ = [lineFeed].intercalate
          ((report.issues.map Issue.text ++ [report.summary]).map ofString) := by
      rw [spelled, issues_eq, List.map_append, List.map_singleton]
    _ = [lineFeed].intercalate
          (((report.issues.map Issue.text ++ [report.summary]).map String.toList).map points) := by
      rw [List.map_map]
      rfl
    _ = points report.text.toList := by
      rw [toList_text, view_intercalate apart (by simp)]

/-- A report whose path, codes, messages and paths of files are on one line each. -/
structure IsLined (report : Report) : Prop where
  path : '\n' ∉ report.path.text.toList
  issues : ∀ issue ∈ report.issues, issue.IsLined

/-- The words after the path in the line that sums up. -/
def summaryWords (report : Report) : List String :=
  [verdict report.passed, "(" ++ toString report.errors.length, "errors,",
    toString report.warnings.length, "warnings,", toString report.infos.length, "info;",
    toString report.checksRun.length, "checks", "run)"]

theorem ofString_summary (report : Report) :
    ofString report.summary = ofString (report.path.text ++ ":") ++
      space :: [space].intercalate (report.summaryWords.map ofString) := by
  simp [summary, summaryWords, ofString, points, List.intercalate_cons_cons, space]

theorem space_not_mem_summaryWords (report : Report) :
    ∀ word ∈ report.summaryWords.map ofString, space ∉ word := by
  have number_free (n : Nat) : ' ' ∉ Nat.toDigits 10 n := not_mem_toDigits (by decide) n
  have verdict_free : ' ' ∉ (verdict report.passed).toList := by cases report.passed <;> decide
  simp [summaryWords, char_mem_ofString, number_free, verdict_free]

variable {report : Report}

theorem IsLined.summary (lined : report.IsLined) : '\n' ∉ report.summary.toList := by
  have number_free (n : Nat) : '\n' ∉ Nat.toDigits 10 n := not_mem_toDigits (by decide) n
  have verdict_free : '\n' ∉ (verdict report.passed).toList := by cases report.passed <;> decide
  simp [Report.summary, lined.path, number_free, verdict_free]

theorem IsLined.splitOn_spelled (lined : report.IsLined) :
    report.spelled.splitOn lineFeed =
      report.issues.flatMap Issue.lines ++ [ofString report.summary] := by
  have summary_free : lineFeed ∉ ofString report.summary := mt char_mem_ofString.mp lined.summary
  have issues_split : report.issues.flatMap (fun issue => issue.spelled.splitOn lineFeed) =
      report.issues.flatMap Issue.lines :=
    List.flatMap_congr fun issue member => (lined.issues issue member).splitOn_spelled
  rw [spelled, Text.splitOn_intercalate_eq_flatMap (by simp), List.flatMap_append,
    List.flatMap_map, issues_split, List.flatMap_singleton, List.splitOn_eq_singleton summary_free]

end Report

end BundleLint
