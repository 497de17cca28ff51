import BundleLint.Text.Line
import Mathlib.Data.List.Basic

/-!
# Cutting a text into lines

The lines of a text are a partition of it. Texts that meet at the end of a line have their lines
one after the other, unless the two halves of one line end meet there; conversely, any cut between
lines is such a meeting.
-/

namespace BundleLint.Text

/-- A text that ends with the end of a line, or that is empty. -/
def EndsLine (text : List Char) : Prop :=
  ∀ c, text.getLast? = some c → isLineEnd c

/-- Two texts of which the first does not end, and the second begin, with half of a line end. -/
def Meets (front back : List Char) : Prop :=
  front.getLast? = some '\r' → back.head? ≠ some '\n'

@[simp]
theorem lines_nil : lines [] = [] := rfl

@[simp]
theorem lines_crlf (rest : List Char) : lines ('\r' :: '\n' :: rest) = ['\r', '\n'] :: lines rest :=
  rfl

/-- The lines of a text that does not begin with a line end of two characters. -/
private theorem lines_cons {c : Char} {rest : List Char}
    (whole : c = '\r' → rest.head? ≠ some '\n') :
    lines (c :: rest) =
      if isLineEnd c then [c] :: lines rest
      else (c :: (lines rest).headD []) :: (lines rest).tail := by
  conv_lhs => unfold lines
  split
  · rename_i empty
    cases empty
  · rename_i tail halves
    cases halves
    exact absurd rfl (whole rfl)
  · rename_i parts
    cases parts
    cases lines rest with
    | nil => simp
    | cons line others => simp

/-- A character that ends a line, and not as half of a line end, is followed by the next line. -/
theorem lines_cons_end {c : Char} (rest : List Char) (ends : isLineEnd c)
    (whole : c = '\r' → rest.head? ≠ some '\n') : lines (c :: rest) = [c] :: lines rest := by
  rw [lines_cons whole, if_pos ends]

/-- A character that does not end a line belongs to the first line of what follows. -/
theorem lines_cons_inner {c : Char} (rest : List Char) (inner : ¬isLineEnd c) :
    lines (c :: rest) =
      (c :: (lines rest).headD []) :: (lines rest).tail := by
  rw [lines_cons, if_neg inner]
  rintro rfl
  exact absurd rfl inner

@[simp]
theorem lines_eq_nil_iff {text : List Char} : lines text = [] ↔ text = [] := by
  fun_cases lines text with
  | case1 => simp
  | case2 rest => simp
  | case3 c rest whole ends => simp
  | case4 c rest whole inner empty => simp
  | case5 c rest whole inner line others lines_eq => simp

/-- No character is lost, added or moved. -/
@[simp]
theorem lines_flatten (text : List Char) : (lines text).flatten = text := by
  fun_induction lines text with
  | case1 => rfl
  | case2 rest ih => simp [ih]
  | case3 c rest whole ends ih => simp [ih]
  | case4 c rest whole inner empty ih =>
      have rest_nil : rest = [] := by simpa using empty
      simp [rest_nil]
  | case5 c rest whole inner line others lines_eq ih =>
      rw [lines_eq] at ih
      simpa using ih

theorem EndsLine.of_cons {c : Char} {rest : List Char} (ends : EndsLine (c :: rest)) :
    EndsLine rest := by
  intro last last_eq
  apply ends
  simp [List.getLast?_cons, last_eq]

theorem Meets.of_cons {c : Char} {front back : List Char} (meets : Meets (c :: front) back) :
    Meets front back := by
  intro last_eq
  apply meets
  simp [List.getLast?_cons, last_eq]

/-- A character that is not followed by the other half of a line end. -/
theorem head?_ne_of_whole {c : Char} {rest : List Char}
    (whole : ∀ tail, c = '\r' → rest = '\n' :: tail → False) :
    c = '\r' → rest.head? ≠ some '\n' := by
  intro c_eq next_eq
  obtain ⟨tail, rest_eq⟩ := List.head?_eq_some_iff.mp next_eq
  exact whole tail c_eq rest_eq

/-- Texts that do not meet within a line end put no half of one behind a character. -/
theorem Meets.head?_ne {c : Char} {rest back : List Char} (meets : Meets (c :: rest) back)
    (whole : ∀ tail, c = '\r' → rest = '\n' :: tail → False) :
    c = '\r' → (rest ++ back).head? ≠ some '\n' := by
  intro c_eq
  cases rest with
  | nil => exact meets (by rw [c_eq]; rfl)
  | cons next rest =>
      have alone : (next :: rest).head? ≠ some '\n' := head?_ne_of_whole whole c_eq
      exact alone

/-- The lines of two texts that meet between lines. -/
theorem lines_append {front back : List Char} (ends : EndsLine front) (meets : Meets front back) :
    lines (front ++ back) = lines front ++ lines back := by
  fun_induction lines front with
  | case1 => rfl
  | case2 rest ih =>
      have later := ih ends.of_cons.of_cons meets.of_cons.of_cons
      simp [later]
  | case3 c rest whole isEnd ih =>
      have later := ih ends.of_cons meets.of_cons
      rw [List.cons_append, lines_cons_end _ isEnd (meets.head?_ne whole), later,
        List.cons_append]
  | case4 c rest whole inner empty ih =>
      have rest_nil : rest = [] := by simpa using empty
      subst rest_nil
      exact absurd (ends c rfl) inner
  | case5 c rest whole inner line others lines_eq ih =>
      have later := ih ends.of_cons meets.of_cons
      rw [List.cons_append, lines_cons_inner _ inner, later, lines_eq]
      rfl

/-- A text in which only the last character ends a line is a line. -/
theorem lines_of_inner {front : List Char} {last : Char} (inner : ∀ c ∈ front, ¬isLineEnd c)
    (ends : isLineEnd last) : lines (front ++ [last]) = [front ++ [last]] := by
  induction front with
  | nil => simpa using lines_cons_end [] ends (by simp)
  | cons c front ih =>
      have later := ih fun d member => inner d (List.mem_cons_of_mem c member)
      rw [List.cons_append, lines_cons_inner _ (inner c List.mem_cons_self), later]
      rfl

theorem EndsLine.append {front back : List Char} (front_ends : EndsLine front)
    (back_ends : EndsLine back) : EndsLine (front ++ back) := by
  intro last last_eq
  rw [List.getLast?_append] at last_eq
  cases back_last : back.getLast? with
  | none => exact front_ends last (by simpa [back_last] using last_eq)
  | some c => exact back_ends last (by simpa [back_last] using last_eq)

/-- The first line of a text, cut off. -/
theorem lines_uncons {text line : List Char} {others : List (List Char)}
    (lines_eq : lines text = line :: others) :
    ∃ rest, text = line ++ rest ∧ lines rest = others ∧ lines line = [line] ∧
      Meets line rest ∧ (rest ≠ [] → EndsLine line) := by
  fun_induction lines text generalizing line others with
  | case1 => cases lines_eq
  | case2 rest ih =>
      obtain ⟨rfl, rfl⟩ := List.cons.inj lines_eq
      refine ⟨rest, rfl, rfl, rfl, ?_, ?_⟩
      · intro last_eq
        cases last_eq
      · rintro - last last_eq
        obtain rfl : '\n' = last := by simpa using last_eq
        rfl
  | case3 c rest whole isEnd ih =>
      obtain ⟨rfl, rfl⟩ := List.cons.inj lines_eq
      refine ⟨rest, rfl, rfl, ?_, ?_, ?_⟩
      · simpa using lines_cons_end [] isEnd (by simp)
      · intro last_eq next_eq
        obtain rfl : c = '\r' := by simpa using last_eq
        obtain ⟨tail, rfl⟩ : ∃ tail, rest = '\n' :: tail := List.head?_eq_some_iff.mp next_eq
        exact whole tail rfl rfl
      · rintro - last last_eq
        obtain rfl : c = last := by simpa using last_eq
        exact isEnd
  | case4 c rest whole inner empty ih =>
      obtain ⟨rfl, rfl⟩ := List.cons.inj lines_eq
      obtain rfl : rest = [] := by simpa using empty
      refine ⟨[], rfl, rfl, ?_, ?_, ?_⟩
      · simpa using lines_cons_inner [] inner
      · intro _ next_eq
        cases next_eq
      · intro rest_ne
        exact absurd rfl rest_ne
  | case5 c rest whole inner first later first_eq ih =>
      obtain ⟨rfl, rfl⟩ := List.cons.inj lines_eq
      obtain ⟨tail, rfl, tail_lines, first_line, meets, ends⟩ := ih first_eq
      have first_ne : first ≠ [] := by
        rintro rfl
        cases first_line
      refine ⟨tail, rfl, tail_lines, ?_, ?_, ?_⟩
      · rw [lines_cons_inner _ inner, first_line]
        rfl
      · intro last_eq
        exact meets (by simpa [List.getLast?_cons_of_ne_nil first_ne] using last_eq)
      · intro tail_ne last last_eq
        exact ends tail_ne last (by simpa [List.getLast?_cons_of_ne_nil first_ne] using last_eq)

/-- Any cut between the lines of a text cuts the text where lines meet. -/
theorem lines_cut {text : List Char} {front back : List (List Char)}
    (cut : lines text = front ++ back) :
    lines front.flatten = front ∧ lines back.flatten = back ∧
      Meets front.flatten back.flatten ∧ (back ≠ [] → EndsLine front.flatten) := by
  induction front generalizing text with
  | nil =>
      have back_eq : lines text = back := cut
      refine ⟨rfl, ?_, ?_, ?_⟩
      · rw [← back_eq, lines_flatten]
      · intro last_eq
        cases last_eq
      · rintro - last last_eq
        cases last_eq
  | cons line front ih =>
      rw [List.cons_append] at cut
      obtain ⟨rest, rfl, rest_lines, line_alone, meets, ends⟩ := lines_uncons cut
      obtain ⟨front_lines, back_lines, front_meets, front_ends⟩ := ih rest_lines
      have rest_eq : rest = front.flatten ++ back.flatten := by
        rw [← lines_flatten rest, rest_lines, List.flatten_append]
      cases front_eq : front.flatten with
      | nil =>
          obtain rfl : front = [] := by
            rw [← front_lines, front_eq, lines_nil]
          obtain rfl : rest = back.flatten := rest_eq
          refine ⟨by simpa using line_alone, back_lines, by simpa using meets, ?_⟩
          intro back_ne
          have rest_ne : back.flatten ≠ [] := by
            intro rest_nil
            rw [rest_nil, lines_nil] at back_lines
            exact back_ne back_lines.symm
          simpa using ends rest_ne
      | cons c tail =>
          have rest_ne : rest ≠ [] := by simp [rest_eq, front_eq]
          have line_meets : Meets line front.flatten := by
            intro last_eq next_eq
            exact meets last_eq (by simpa [rest_eq, front_eq] using next_eq)
          refine ⟨?_, back_lines, ?_, ?_⟩
          · rw [List.flatten_cons, lines_append (ends rest_ne) line_meets, line_alone,
              front_lines]
            rfl
          · intro last_eq
            exact front_meets (by simpa [front_eq] using last_eq)
          · intro back_ne
            rw [List.flatten_cons]
            exact (ends rest_ne).append (front_ends back_ne)

end BundleLint.Text
