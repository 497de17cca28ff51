import BundleLint.Proofs.FrontMatter.Reading
import BundleLint.Proofs.Text.Lines
import Mathlib.Data.List.TakeWhile

/-!
# Splitting as a partition

A file is cut at the first two lines that delimit a front matter. The four parts follow each other
without gap or overlap, the block between the delimiters is what is read, and the rest is the body
character by character.
-/

namespace BundleLint.FrontMatter

open Text (lines isBlank isLineEnd EndsLine Meets)

/-- Three hyphens with nothing but blanks after them. -/
def Delimits (line : List Char) : Prop :=
  ∃ blanks, line = ['-', '-', '-'] ++ blanks ∧ ∀ c ∈ blanks, isBlank c

/-- A text cut at its two delimiters. -/
structure IsCut (text opening content closing body : List Char) : Prop where
  /-- The lines of the text are those of its parts. -/
  lines_eq : lines text = opening :: lines content ++ closing :: lines body
  /-- The first line is a delimiter. -/
  opening_delimits : Delimits opening
  /-- The line after the content is a delimiter. -/
  closing_delimits : Delimits closing
  /-- No line of the content is a delimiter. -/
  content_plain : ∀ line ∈ lines content, ¬Delimits line

theorem isDelimiter_iff {line : List Char} : isDelimiter line = true ↔ Delimits line := by
  simp only [isDelimiter, Text.trimRight, Text.dropLastWhile, beq_iff_eq]
  constructor
  · intro trimmed
    refine ⟨(line.reverse.takeWhile isBlank).reverse, ?_, ?_⟩
    · rw [← trimmed, ← List.reverse_append, List.takeWhile_append_dropWhile, List.reverse_reverse]
    · intro c member
      exact List.mem_takeWhile_imp (List.mem_reverse.mp member)
  · rintro ⟨blanks, rfl, blank⟩
    rw [List.reverse_append, List.dropWhile_append_of_pos]
    · rfl
    · intro c member
      exact blank c (List.mem_reverse.mp member)

/-- The parts of a cut make up the whole text. -/
theorem IsCut.whole {text opening content closing body : List Char}
    (cut : IsCut text opening content closing body) :
    text = opening ++ content ++ closing ++ body := by
  have flat := congrArg List.flatten cut.lines_eq
  simpa [List.append_assoc] using flat

/-- A text can be cut as soon as its first line and a later one are delimiters. -/
theorem exists_isCut {text opening : List Char} {later : List (List Char)}
    (lines_eq : lines text = opening :: later) (opens : Delimits opening)
    (closes : ∃ line ∈ later, Delimits line) :
    ∃ content closing body, IsCut text opening content closing body := by
  let inside := later.takeWhile fun line => !isDelimiter line
  have later_eq : later = inside ++ later.dropWhile fun line => !isDelimiter line :=
    List.takeWhile_append_dropWhile.symm
  cases outside : later.dropWhile fun line => !isDelimiter line with
  | nil =>
      obtain ⟨line, member, delimits⟩ := closes
      have plain := List.dropWhile_eq_nil_iff.mp outside line member
      simp [isDelimiter_iff.mpr delimits] at plain
  | cons closing rest =>
      rw [outside] at later_eq
      have cut : lines text = [opening] ++ (inside ++ ([closing] ++ rest)) := by
        rw [lines_eq, later_eq]
        rfl
      obtain ⟨-, after_opening, -, -⟩ := Text.lines_cut cut
      obtain ⟨inside_lines, after_inside, -, -⟩ := Text.lines_cut after_opening
      obtain ⟨-, rest_lines, -, -⟩ := Text.lines_cut after_inside
      refine ⟨inside.flatten, closing, rest.flatten, ?_, opens, ?_, ?_⟩
      · rw [inside_lines, rest_lines, lines_eq, later_eq]
        rfl
      · have closing_head := List.head?_dropWhile_not (fun line => !isDelimiter line) later
        rw [outside] at closing_head
        exact isDelimiter_iff.mp (by simpa using closing_head)
      · intro line member
        rw [inside_lines] at member
        have plain := List.mem_takeWhile_imp member
        rw [← isDelimiter_iff]
        simpa using plain

/-- A cut of a text is what is found: the content is read and the body is kept. -/
theorem IsCut.layout_eq {text opening content closing body : List Char}
    (cut : IsCut (dropMark text) opening content closing body) :
    layout text = .block content body := by
  have opens : isDelimiter opening = true := isDelimiter_iff.mpr cut.opening_delimits
  have closes : isDelimiter closing = true := isDelimiter_iff.mpr cut.closing_delimits
  have plain : ∀ line ∈ lines content, (!isDelimiter line) = true := by
    intro line member
    have not_delimits := cut.content_plain line member
    rw [← isDelimiter_iff] at not_delimits
    simpa using not_delimits
  have lines_eq : lines (dropMark text) = opening :: (lines content ++ closing :: lines body) :=
    cut.lines_eq
  simp only [layout, lines_eq, opens]
  rw [List.takeWhile_append_of_pos plain, List.dropWhile_append_of_pos plain]
  simp [closes]

theorem layout_of_plain {text : List Char}
    (plain : ∀ opening later, lines (dropMark text) = opening :: later → ¬Delimits opening) :
    layout text = .bodyOnly (dropMark text) := by
  cases lines_eq : lines (dropMark text) with
  | nil => simp only [layout, lines_eq]
  | cons opening later =>
      have not_delimits := plain opening later lines_eq
      rw [← isDelimiter_iff] at not_delimits
      simp only [layout, lines_eq]
      simp [not_delimits]

theorem layout_of_open {text opening : List Char} {later : List (List Char)}
    (lines_eq : lines (dropMark text) = opening :: later) (opens : Delimits opening)
    (unclosed : ∀ line ∈ later, ¬Delimits line) : layout text = .unterminated := by
  have outside : (later.dropWhile fun line => !isDelimiter line) = [] := by
    rw [List.dropWhile_eq_nil_iff]
    intro line member
    have not_delimits := unclosed line member
    rw [← isDelimiter_iff] at not_delimits
    simpa using not_delimits
  simp [layout, lines_eq, isDelimiter_iff.mpr opens, outside]

/-- A text without its byte-order mark, of which one at most is dropped. -/
theorem dropMark_eq (text : List Char) :
    dropMark text = if text.head? = some '\ufeff' then text.tail else text := by
  cases text with
  | nil => rfl
  | cons c rest => simp [dropMark, Yaml.byteOrderMark]

/-- A delimiter as it is written: hyphens, blanks that end no line, and a line feed. -/
def delimiter (blanks : List Char) : List Char :=
  ['-', '-', '-'] ++ blanks ++ ['\n']

theorem lines_delimiter {blanks : List Char} (inner : ∀ c ∈ blanks, ¬isLineEnd c) :
    lines (delimiter blanks) = [delimiter blanks] := by
  apply Text.lines_of_inner
  · intro c member
    rcases List.mem_append.mp member with hyphen | blank
    · simp only [List.mem_cons, List.not_mem_nil, or_false, or_self] at hyphen
      subst hyphen
      decide
    · exact inner c blank
  · decide

theorem delimits_delimiter {blanks : List Char} (blank : ∀ c ∈ blanks, isBlank c) :
    Delimits (delimiter blanks) := by
  refine ⟨blanks ++ ['\n'], List.append_assoc .., ?_⟩
  intro c member
  rcases List.mem_append.mp member with inside | last
  · exact blank c inside
  · obtain rfl := List.mem_singleton.mp last
    decide

/-- The lines of a text that begins with a delimiter. -/
theorem lines_delimiter_append {blanks : List Char} (inner : ∀ c ∈ blanks, ¬isLineEnd c)
    (rest : List Char) : lines (delimiter blanks ++ rest) = delimiter blanks :: lines rest := by
  have last_eq : (delimiter blanks).getLast? = some '\n' := by
    rw [delimiter, List.getLast?_concat]
  rw [Text.lines_append, lines_delimiter inner]
  · rfl
  · intro c c_eq
    obtain rfl : '\n' = c := by simpa [last_eq] using c_eq
    rfl
  · intro c_eq
    simp [last_eq] at c_eq

/-- A text that is written from its parts is cut into these parts. -/
theorem isCut_of_parts {before after content body : List Char}
    (before_blank : ∀ c ∈ before, isBlank c ∧ ¬isLineEnd c)
    (after_blank : ∀ c ∈ after, isBlank c ∧ ¬isLineEnd c)
    (ends : EndsLine content) (plain : ∀ line ∈ lines content, ¬Delimits line) :
    IsCut (delimiter before ++ content ++ delimiter after ++ body) (delimiter before) content
      (delimiter after) body := by
  refine ⟨?_, delimits_delimiter fun c member => (before_blank c member).1,
    delimits_delimiter fun c member => (after_blank c member).1, plain⟩
  have meets : Meets content (delimiter after ++ body) := by
    intro _ next_eq
    cases next_eq
  rw [List.append_assoc, List.append_assoc,
    lines_delimiter_append fun c member => (before_blank c member).2,
    Text.lines_append ends meets,
    lines_delimiter_append fun c member => (after_blank c member).2]
  rfl

/-- A file that is cut gives what its content reads as, with the body of the cut. -/
theorem split_of_isCut {text opening content closing body : List Char}
    (cut : IsCut (dropMark text) opening content closing body) :
    split text = (settings content).map fun config => { config, body } := by
  simp only [split, cut.layout_eq]
  cases settings content <;> rfl

/-- Splitting loses nothing. A text whose first line is no delimiter is all body; one that is not
closed is refused at its start; any other text is four parts in a row, of which the second is what
is read and the last is the body. Conversely, parts that are put in a row are found again. -/
theorem split_lossless :
    (∀ text : List Char,
      let shown := if text.head? = some '\ufeff' then text.tail else text
      ((∀ opening later, lines shown = opening :: later → ¬Delimits opening) →
        split text = .ok { config := .empty, body := shown }) ∧
      ∀ opening later, lines shown = opening :: later → Delimits opening →
        ((∀ line ∈ later, ¬Delimits line) →
          split text =
            .error (.rejected
              { defect := .unterminated, position := some { line := 0, column := 0 } })) ∧
        ((∃ line ∈ later, Delimits line) →
          ∃ content closing body,
            shown = opening ++ content ++ closing ++ body ∧
              IsCut shown opening content closing body ∧
              split text = (settings content).map fun config => { config, body })) ∧
    ∀ before after content body : List Char,
      (∀ c ∈ before, isBlank c ∧ ¬isLineEnd c) → (∀ c ∈ after, isBlank c ∧ ¬isLineEnd c) →
        EndsLine content → (∀ line ∈ lines content, ¬Delimits line) →
          split (delimiter before ++ content ++ delimiter after ++ body) =
              (settings content).map (fun config => { config, body }) ∧
            ∀ config, Reads content config →
              split (delimiter before ++ content ++ delimiter after ++ body) =
                .ok { config, body } := by
  constructor
  · intro text shown
    have shown_eq : dropMark text = shown := dropMark_eq text
    rw [← shown_eq]
    constructor
    · intro plain
      simp only [split, layout_of_plain plain]
    · intro opening later lines_eq opens
      constructor
      · intro unclosed
        simp only [split, layout_of_open lines_eq opens unclosed]
      · intro closes
        obtain ⟨content, closing, body, cut⟩ := exists_isCut lines_eq opens closes
        exact ⟨content, closing, body, cut.whole, cut, split_of_isCut cut⟩
  · intro before after content body before_blank after_blank ends plain
    have cut : IsCut (dropMark (delimiter before ++ content ++ delimiter after ++ body))
        (delimiter before) content (delimiter after) body :=
      isCut_of_parts before_blank after_blank ends plain
    have split_eq := split_of_isCut cut
    refine ⟨split_eq, ?_⟩
    intro config reads
    rw [split_eq, settings_eq_ok_iff.mpr reads]
    rfl

theorem split_lossless_carriage_return :
    split "\ufeff# x\n".toList = .ok { config := .empty, body := "# x\n".toList } ∧
      ∃ config,
        split (delimiter [' '] ++ "a: x\r".toList ++ delimiter ['\t'] ++ "\n---\n".toList) =
          .ok { config, body := "\n---\n".toList } := by
  obtain ⟨apart, together⟩ := split_lossless
  constructor
  · refine (apart "\ufeff# x\n".toList).1 ?_
    intro opening later lines_eq
    have shown_lines : lines "# x\n".toList = ["# x\n".toList] := by decide
    obtain ⟨rfl, -⟩ := List.cons.inj (shown_lines.symm.trans lines_eq)
    rw [← isDelimiter_iff]
    decide
  · have readable : (settings "a: x\r".toList).isOk = true := by decide +kernel
    cases settings_eq : settings "a: x\r".toList with
    | error failure =>
        rw [settings_eq] at readable
        cases readable
    | ok config =>
        refine ⟨config, (together [' '] ['\t'] "a: x\r".toList "\n---\n".toList
          ?_ ?_ ?_ ?_).2 config (settings_eq_ok_iff.mp settings_eq)⟩
        · intro c member
          obtain rfl := List.mem_singleton.mp member
          exact ⟨rfl, Bool.false_ne_true⟩
        · intro c member
          obtain rfl := List.mem_singleton.mp member
          exact ⟨rfl, Bool.false_ne_true⟩
        · intro c c_eq
          obtain rfl : '\r' = c := by simpa using c_eq
          rfl
        · intro line member
          have content_lines : lines "a: x\r".toList = ["a: x\r".toList] := by decide
          rw [content_lines] at member
          obtain rfl := List.mem_singleton.mp member
          rw [← isDelimiter_iff]
          decide

end BundleLint.FrontMatter
