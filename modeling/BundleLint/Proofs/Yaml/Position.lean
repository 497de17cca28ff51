import BundleLint.Proofs.Text.Lines
import BundleLint.Yaml.Source
import Mathlib.Data.List.Basic

/-!
# Places of a document and lines of a text

A document breaks lines at fewer characters than a text does, but it may not hold the others. The
place that is reached in it is therefore the line and the column of the next character, where a
byte-order mark takes no column.
-/

namespace BundleLint.Yaml

open Text (lines isLineEnd EndsLine)

/-- Number of columns that characters of a line take. -/
def width (text : List Char) : Nat :=
  (text.filter (· != byteOrderMark)).length

/-- The character after `offset` others lies in `line`, with the lines of `before` before it and
`column` characters of its own line. -/
structure LiesIn (all : List (List Char)) (offset : Nat) (before : List (List Char))
    (line : List Char) (column : Nat) : Prop where
  /-- The line follows those before it. -/
  lines_eq : ∃ after, all = before ++ line :: after
  /-- The characters before it are those of the lines before and those before it in its line. -/
  offset_eq : before.flatten.length + column = offset
  /-- It is in its line. -/
  column_lt : column < line.length

@[simp]
theorem width_nil : width [] = 0 := rfl

theorem width_cons (c : Char) (text : List Char) :
    width (c :: text) = (if c == byteOrderMark then 0 else 1) + width text := by
  unfold width
  rw [List.filter_cons]
  by_cases isMark : c = byteOrderMark
  · simp [isMark]
  · simp [isMark, Nat.add_comm]

/-- Without a byte-order mark, each character takes a column. -/
theorem width_eq_length {text : List Char} (unmarked : byteOrderMark ∉ text) :
    width text = text.length := by
  have all_wide : ∀ c ∈ text, (c != byteOrderMark) = true := by
    intro c member
    rw [bne_iff_ne]
    rintro rfl
    exact unmarked member
  rw [width, List.filter_eq_self.mpr all_wide]

/-- Of the characters that end a line of a text, a document may hold those that break its lines. -/
theorem isBreak_iff {c : Char} (allowed : isAllowed c) : isBreak c ↔ isLineEnd c := by
  simp only [isBreak, isLineEnd, Bool.or_eq_true, beq_iff_eq]
  constructor
  · tauto
  · rintro (((((((((rfl | rfl) | rfl) | rfl) | rfl) | rfl) | rfl) | rfl) | rfl) | rfl)
    all_goals
      revert allowed
      decide

/-- Up to the end of some lines, no character lies beyond the line after them. -/
theorem LiesIn.length_le {front : List (List Char)} {closing : List Char}
    {later before : List (List Char)} {line : List Char} {offset column : Nat}
    (lies : LiesIn (front ++ closing :: later) offset before line column)
    (closing_ne : closing ≠ [])
    (offset_le : offset ≤ front.flatten.length) : before.length ≤ front.length := by
  obtain ⟨⟨after, lines_eq⟩, rfl, -⟩ := lies
  rcases List.append_eq_append_iff.mp lines_eq with ⟨extra, rfl, extra_eq⟩ | ⟨short, rfl, -⟩
  · cases extra with
    | nil => simp
    | cons first extra =>
        obtain ⟨rfl, -⟩ := List.cons.inj extra_eq
        have closing_pos := List.length_pos_of_ne_nil closing_ne
        simp at offset_le
        omega
  · simp

namespace Cursor

/-- A character that breaks the line, and not as half of a line end, begins the next line. -/
theorem step_of_break {cursor : Cursor} {c : Char} {rest : List Char}
    (rest_eq : cursor.rest = c :: rest) (breaks : isBreak c)
    (whole : c = '\r' → rest.head? ≠ some '\n') :
    cursor.step =
      { cursor with rest, offset := cursor.offset + 1, line := cursor.line + 1, column := 0 } := by
  unfold step
  rw [rest_eq]
  dsimp only
  split
  · rename_i isReturn
    split
    · exact absurd rfl (whole (by simpa using isReturn))
    · rfl
  · rfl

/-- Any other character, and the first half of a line end, takes its columns of the line. -/
theorem step_of_inner {cursor : Cursor} {c : Char} {rest : List Char}
    (rest_eq : cursor.rest = c :: rest)
    (inner : isBreak c → c = '\r' ∧ rest.head? = some '\n') :
    cursor.step =
      { cursor with
        rest, offset := cursor.offset + 1, column := cursor.column + width [c] } := by
  have width_eq : cursor.column + width [c] =
      if c == byteOrderMark then cursor.column else cursor.column + 1 := by
    rw [width_cons]
    split <;> rfl
  unfold step
  rw [rest_eq, width_eq]
  dsimp only
  split
  · rename_i isReturn
    obtain rfl : c = '\r' := by simpa using isReturn
    obtain ⟨-, next_eq⟩ := inner rfl
    obtain ⟨tail, rfl⟩ := List.head?_eq_some_iff.mp next_eq
    rfl
  · rename_i notReturn
    rw [if_neg]
    intro breaks
    obtain ⟨rfl, -⟩ := inner breaks
    exact notReturn rfl

/-- From a place at the start of some lines, the place of the character after `offset` others. -/
def ReachesIn (start here : Cursor) (all : List (List Char)) (offset : Nat) : Prop :=
  ∃ before line column, LiesIn all offset before line column ∧
    here.line = start.line + before.length ∧
    here.column = (if before = [] then start.column else 0) + width (line.take column)

theorem reachesIn_start {cursor : Cursor} {line : List Char} {later : List (List Char)}
    (line_ne : line ≠ []) : cursor.ReachesIn cursor (line :: later) 0 := by
  refine ⟨[], line, 0, ⟨⟨later, rfl⟩, rfl, List.length_pos_of_ne_nil line_ne⟩, rfl, ?_⟩
  simp

/-- Beyond a first line, which ends before the start. -/
theorem ReachesIn.after_line {next here : Cursor} {later : List (List Char)} {offset : Nat}
    (reaches : next.ReachesIn here later offset) (start : Cursor) (line : List Char)
    (line_eq : next.line = start.line + 1) (column_eq : next.column = 0) :
    start.ReachesIn here (line :: later) (line.length + offset) := by
  obtain ⟨before, found, column, ⟨⟨after, rfl⟩, rfl, column_lt⟩, here_line, here_column⟩ := reaches
  refine ⟨line :: before, found, column, ⟨⟨after, rfl⟩, ?_, column_lt⟩, ?_, ?_⟩
  · simp [Nat.add_assoc]
  · rw [here_line, line_eq, List.length_cons]
    omega
  · simpa [column_eq] using here_column

/-- Beyond a first character, in whose line the start lies. -/
theorem ReachesIn.after_char {start next here : Cursor} {c : Char} {line : List Char}
    {later : List (List Char)} {offset : Nat}
    (reaches : next.ReachesIn here (line :: later) offset) (line_eq : next.line = start.line)
    (column_eq : next.column = start.column + width [c]) :
    start.ReachesIn here ((c :: line) :: later) (offset + 1) := by
  obtain ⟨before, found, column, ⟨⟨after, lines_eq⟩, rfl, column_lt⟩, here_line, here_column⟩ :=
    reaches
  cases before with
  | nil =>
      obtain ⟨rfl, rfl⟩ := List.cons.inj lines_eq
      refine ⟨[], c :: line, column + 1, ⟨⟨_, rfl⟩, ?_, Nat.succ_lt_succ column_lt⟩, ?_, ?_⟩
      · simp
      · rw [here_line, line_eq]
      · simp only [if_true] at here_column ⊢
        rw [here_column, column_eq, List.take_succ_cons, width_cons c, width_cons c]
        simp [Nat.add_assoc]
  | cons first before =>
      obtain ⟨rfl, rfl⟩ := List.cons.inj lines_eq
      refine ⟨(c :: line) :: before, found, column, ⟨⟨after, rfl⟩, ?_, column_lt⟩, ?_, ?_⟩
      · simp
        omega
      · rw [here_line, line_eq]
        rfl
      · simpa using here_column

/-- After any number of characters of whole lines, the place is that of the next character, which
may be the first one after these lines. -/
theorem steps_reachesIn {text closing : List Char} (later : List (List Char))
    (allowed : ∀ c ∈ text, isAllowed c) (ends : EndsLine text) (closing_ne : closing ≠ [])
    {cursor : Cursor} (rest_eq : cursor.rest = text) {offset : Nat}
    (offset_le : offset ≤ text.length) :
    cursor.ReachesIn (cursor.steps offset) (lines text ++ closing :: later) offset := by
  fun_induction lines text generalizing cursor offset with
  | case1 =>
      obtain rfl : offset = 0 := by simpa using offset_le
      exact reachesIn_start closing_ne
  | case2 rest ih =>
      have rest_allowed : ∀ c ∈ rest, isAllowed c := fun c member =>
        allowed c (List.mem_cons_of_mem _ (List.mem_cons_of_mem _ member))
      have first := step_of_inner rest_eq fun _ => ⟨rfl, rfl⟩
      have first_rest : cursor.step.rest = '\n' :: rest := by rw [first]
      have second := step_of_break first_rest rfl (by simp)
      cases offset with
      | zero => exact reachesIn_start (by simp)
      | succ offset =>
          cases offset with
          | zero =>
              have half : cursor.step.ReachesIn cursor.step
                  (['\n'] :: (lines rest ++ closing :: later)) 0 := reachesIn_start (by simp)
              exact half.after_char (by rw [first]) (by rw [first])
          | succ offset =>
              have second_rest : cursor.step.step.rest = rest := by rw [second]
              have later_le : offset ≤ rest.length := by simpa using offset_le
              have reaches := ih rest_allowed ends.of_cons.of_cons second_rest later_le
              have moved := reaches.after_line cursor ['\r', '\n']
                (by rw [second, first]) (by rw [second])
              rw [show ['\r', '\n'].length + offset = offset + 1 + 1 by simp; omega] at moved
              exact moved
  | case3 c rest whole isEnd ih =>
      have rest_allowed : ∀ d ∈ rest, isAllowed d := fun d member =>
        allowed d (List.mem_cons_of_mem c member)
      have breaks : isBreak c := (isBreak_iff (allowed c List.mem_cons_self)).mpr isEnd
      have first := step_of_break rest_eq breaks (by
        rintro rfl next_eq
        obtain ⟨tail, rfl⟩ := List.head?_eq_some_iff.mp next_eq
        exact whole tail rfl rfl)
      cases offset with
      | zero => exact reachesIn_start (by simp)
      | succ offset =>
          have first_rest : cursor.step.rest = rest := by rw [first]
          have later_le : offset ≤ rest.length := by simpa using offset_le
          have reaches := ih rest_allowed ends.of_cons first_rest later_le
          have moved := reaches.after_line cursor [c] (by rw [first]) (by rw [first])
          rw [show [c].length + offset = offset + 1 by simp; omega] at moved
          exact moved
  | case4 c rest whole inner empty ih =>
      obtain rfl : rest = [] := by simpa using empty
      exact absurd (ends c rfl) inner
  | case5 c rest whole inner line others lines_eq ih =>
      have rest_allowed : ∀ d ∈ rest, isAllowed d := fun d member =>
        allowed d (List.mem_cons_of_mem c member)
      have first := step_of_inner rest_eq fun breaks =>
        absurd ((isBreak_iff (allowed c List.mem_cons_self)).mp breaks) inner
      cases offset with
      | zero => exact reachesIn_start (by simp)
      | succ offset =>
          have first_rest : cursor.step.rest = rest := by rw [first]
          have later_le : offset ≤ rest.length := by simpa using offset_le
          have reaches := ih rest_allowed ends.of_cons first_rest later_le
          rw [lines_eq] at reaches
          exact reaches.after_char (by rw [first]) (by rw [first])

theorem step_rest (cursor : Cursor) : cursor.step.rest = cursor.rest.tail := by
  unfold step
  cases rest_eq : cursor.rest with
  | nil => exact rest_eq
  | cons c rest =>
      dsimp only
      split <;> split <;> rfl

theorem step_of_nil {cursor : Cursor} (rest_eq : cursor.rest = []) : cursor.step = cursor := by
  unfold step
  rw [rest_eq]

/-- Nothing moves beyond the end. -/
theorem steps_min (cursor : Cursor) (count : Nat) :
    cursor.steps (min count cursor.rest.length) = cursor.steps count := by
  induction count generalizing cursor with
  | zero => simp [steps]
  | succ count ih =>
      cases rest_eq : cursor.rest with
      | nil =>
          have later := ih cursor
          rw [rest_eq] at later
          simpa [steps, step_of_nil rest_eq] using later
      | cons c rest =>
          have later := ih cursor.step
          rw [step_rest, rest_eq] at later
          simpa [steps, Nat.succ_min_succ] using later

end Cursor

/-- The place after some characters of whole lines is that of the next character, which may be the
first one after these lines. -/
theorem positionAfter_liesIn {text closing : List Char} (later : List (List Char))
    (allowed : ∀ c ∈ text, isAllowed c) (ends : EndsLine text) (closing_ne : closing ≠ [])
    (offset : Nat) :
    ∃ before line column,
      LiesIn (lines text ++ closing :: later) (min offset text.length) before line column ∧
        before.length ≤ (lines text).length ∧
        positionAfter text offset =
          { line := before.length, column := width (line.take column) } := by
  let start := Source.cursor { text, ending := none }
  have within : min offset text.length ≤ text.length := Nat.min_le_right offset text.length
  have start_rest : start.rest = text := rfl
  have here_eq : start.steps (min offset text.length) = start.steps offset := start.steps_min offset
  obtain ⟨before, line, column, lies, here_line, here_column⟩ :=
    start.steps_reachesIn later allowed ends closing_ne start_rest within
  refine ⟨before, line, column, lies, lies.length_le closing_ne ?_, ?_⟩
  · rwa [Text.lines_flatten]
  rw [here_eq] at here_line here_column
  have line_eq : (start.steps offset).line = before.length := by
    rw [here_line]
    exact Nat.zero_add _
  have column_eq : (start.steps offset).column = width (line.take column) := by
    rw [here_column]
    split <;> exact Nat.zero_add _
  exact congrArg₂ Position.mk line_eq column_eq

end BundleLint.Yaml
