import BundleLint.Proofs.Outcome
import BundleLint.Proofs.Text.Lines
import BundleLint.Proofs.Text.Trim
import BundleLint.Yaml.Account

/-!
# Errors on one line

An error is described by its problem and its context, or by the first line of what it says in all.
Taking a first line is a step that fails on a text without lines. It never fails here, since only a
text that is not empty is cut, and no line end is left in the description. What can fail is to write
the values that an error is made of; the complaints of the reader are made of texts.
-/

namespace BundleLint

namespace Text

/-- A text without a character that ends a line. -/
def IsOneLine (text : String) : Prop :=
  ∀ c ∈ text.toList, ¬isLineEnd c

instance : DecidablePred IsOneLine := fun text =>
  List.decidableBAll (fun c => ¬isLineEnd c) text.toList

/-- The first line of a text, without its end, if the text has a line. -/
def firstLine? (text : List Char) : Option (List Char) :=
  (lines text).head?.map lineBody

/-- Every text that is not empty has a first line, which reaches to the first line end. -/
theorem firstLine?_of_ne_nil {text : List Char} (text_ne : text ≠ []) :
    firstLine? text = some (text.takeWhile fun c => !isLineEnd c) := by
  have feed_ends : isLineEnd '\r' = true := rfl
  unfold firstLine?
  fun_induction lines text with
  | case1 => exact absurd rfl text_ne
  | case2 rest ih => simp [lineBody, feed_ends]
  | case3 c rest whole ends ih => simp [lineBody, ends]
  | case4 c rest whole inner empty ih =>
      obtain rfl : rest = [] := by simpa using empty
      simp [lineBody]
  | case5 c rest whole inner line others lines_eq ih =>
      have rest_ne : rest ≠ [] := by
        rintro rfl
        cases lines_eq
      have later := ih rest_ne
      rw [lines_eq, List.head?_cons, Option.map_some, Option.some.injEq, lineBody] at later
      simp [lineBody, inner, later]

theorem append_ne_empty {first second : String} (kept : first ≠ "" ∨ second ≠ "") :
    first ++ second ≠ "" := by
  intro empty
  obtain ⟨first_eq, second_eq⟩ := String.append_eq_empty_iff.mp empty
  exact kept.elim (· first_eq) (· second_eq)

theorem IsOneLine.append {first second : String} (first_one : IsOneLine first)
    (second_one : IsOneLine second) : IsOneLine (first ++ second) := by
  intro c member
  rw [String.toList_append] at member
  exact (List.mem_append.mp member).elim (first_one c) (second_one c)

theorem isOneLine_takeWhile (text : List Char) :
    IsOneLine (String.ofList (text.takeWhile fun c => !isLineEnd c)) := by
  intro c member
  rw [String.toList_ofList] at member
  simpa using List.all_eq_true.mp List.all_takeWhile c member

end Text

namespace Yaml

open Text

theorem Problem.message_ne_empty (problem : Problem) : problem.message ≠ "" := by
  have begun {first : String} (rest : String) (first_ne : first ≠ "") : first ++ rest ≠ "" :=
    append_ne_empty (.inl first_ne)
  unfold message
  cases problem with
  | misplaced parts => exact append_ne_empty (.inr (by decide))
  | malformedEscape malformed => exact begun _ (begun _ (begun _ (by decide)))
  | notAscii first start count => exact begun _ (begun _ (by decide))
  | _ =>
      dsimp only
      repeat refine begun _ ?_
      decide

theorem Context.message_ne_empty (context : Context) : context.message ≠ "" := by
  unfold message
  cases context with
  | during activity subject =>
      exact append_ne_empty (.inl (append_ne_empty (.inl (append_ne_empty (.inl (by decide))))))
  | firstAnchor name => exact append_ne_empty (.inr (by decide))
  | singleDocument => decide

namespace Account

variable (account : Account)

/-- What an error says up to the first line end, or its name if it says nothing. -/
def beginning (said : String) : String :=
  if said.isEmpty then account.name
  else String.ofList (said.toList.takeWhile fun c => !isLineEnd c)

/-- An error that cannot be described: its problem, the context before it, or all that it says
without a problem cannot be written. -/
inductive Mute : TextFault → Prop
  | context {fault : TextFault} (told : account.problem.isTruthy = true)
      (introduced : account.context.isTruthy = true)
      (no_text : shown account.context = .error fault) : Mute fault
  | problem {fault : TextFault} (told : account.problem.isTruthy = true)
      (written : account.context.isTruthy = true → ∃ context, shown account.context = .ok context)
      (no_text : shown account.problem = .error fault) : Mute fault
  | said {fault : TextFault} (untold : account.problem.isTruthy = false)
      (no_text : account.text = .error fault) : Mute fault

theorem name_isOneLine : IsOneLine account.name := by
  intro c member
  simpa using List.all_eq_true.mp account.name_oneLine c member

theorem beginning_isOneLine (said : String) : IsOneLine (account.beginning said) := by
  unfold beginning
  split
  · exact account.name_isOneLine
  · exact isOneLine_takeWhile said.toList

/-- A text that is not empty has a first line to be taken. -/
theorem firstLine_of_ne_empty {said : String} (said_ne : said.toList ≠ []) :
    firstLine said = .ok (String.ofList (said.toList.takeWhile fun c => !isLineEnd c)) := by
  have first_line := firstLine?_of_ne_nil said_ne
  unfold firstLine? at first_line
  unfold firstLine
  cases lines_eq : lines said.toList with
  | nil =>
      rw [lines_eq] at first_line
      cases first_line
  | cons line others =>
      rw [lines_eq, List.head?_cons, Option.map_some, Option.some.injEq] at first_line
      dsimp only
      rw [first_line]

section Parts

variable {account}

theorem describe_of_both (told : account.problem.isTruthy = true)
    (introduced : account.context.isTruthy = true) :
    account.describe = do
      return (← shown account.context) ++ ": " ++ (← shown account.problem) := by
  unfold describe
  rw [if_pos told, if_pos introduced]

theorem describe_of_problem (told : account.problem.isTruthy = true)
    (alone : account.context.isTruthy = false) : account.describe = shown account.problem := by
  unfold describe
  rw [if_pos told, if_neg (by simp [alone])]

/-- Without a problem the description is the beginning of what the error says. -/
theorem describe_of_no_problem (untold : account.problem.isTruthy = false) :
    account.describe = account.text.map account.beginning := by
  unfold describe
  rw [if_neg (by simp [untold])]
  cases account.text with
  | error fault => rfl
  | ok said =>
      change (if said.isEmpty then .ok account.name else firstLine said) =
        .ok (account.beginning said)
      unfold beginning
      split
      · rfl
      · rename_i said_ne
        exact firstLine_of_ne_empty (by simpa using said_ne)

end Parts

/-- A complaint of the reader is made of texts, so it is always described. -/
theorem describe_ofComplaint (complaint : Complaint) :
    (ofComplaint complaint).describe = .ok complaint.description := by
  have counts {text : String} (text_ne : text ≠ "") :
      (Value.text (ofString text)).isTruthy = true := by
    simpa [Value.isTruthy, ofString, points] using text_ne
  have written (text : String) : shown (.text (ofString text)) = .ok text := by
    change Except.ok (shownString (ofString text)) = _
    rw [shownString_ofString]
  have told : (ofComplaint complaint).problem.isTruthy = true :=
    counts complaint.problem.message_ne_empty
  cases context_eq : complaint.context with
  | none =>
      have alone : (ofComplaint complaint).context = .null := by
        simp [ofComplaint, marked, context_eq]
      rw [describe_of_problem told (by rw [alone]; rfl), Complaint.description, context_eq]
      exact written _
  | some context =>
      have own_context : (ofComplaint complaint).context = .text (ofString context.message) := by
        simp [ofComplaint, marked, context_eq]
      have introduced : (ofComplaint complaint).context.isTruthy = true := by
        rw [own_context]
        exact counts context.message_ne_empty
      have own_problem : (ofComplaint complaint).problem =
          .text (ofString complaint.problem.message) := by
        rfl
      rw [describe_of_both told introduced, own_context, own_problem, written, written,
        Complaint.description, context_eq]
      rfl

/-- An error cannot be described exactly if what it is described from cannot be written. -/
theorem describe_eq_error_iff {fault : TextFault} :
    account.describe = .error fault ↔ account.Mute fault := by
  constructor
  · intro failed
    cases told : account.problem.isTruthy with
    | false =>
        rw [describe_of_no_problem told] at failed
        exact .said told (map_eq_error_iff.mp failed)
    | true =>
        cases introduced : account.context.isTruthy with
        | false =>
            rw [describe_of_problem told introduced] at failed
            exact .problem told (by simp [introduced]) failed
        | true =>
            rw [describe_of_both told introduced] at failed
            rcases bind_eq_error_iff.mp failed with no_context | ⟨context, written, failed⟩
            · exact .context told introduced no_context
            rcases bind_eq_error_iff.mp failed with no_problem | ⟨problem, -, ended⟩
            · exact .problem told (fun _ => ⟨context, written⟩) no_problem
            · cases ended
  · intro mute
    cases mute with
    | context told introduced no_text =>
        rw [describe_of_both told introduced, no_text]
        rfl
    | problem told written no_text =>
        cases introduced : account.context.isTruthy with
        | false => rw [describe_of_problem told introduced, no_text]
        | true =>
            obtain ⟨context, context_eq⟩ := written introduced
            rw [describe_of_both told introduced, context_eq, no_text]
            rfl
    | said untold no_text =>
        rw [describe_of_no_problem untold, no_text]
        rfl

/-- The description of an error is its problem, behind its context or not, or the beginning of what
it says. -/
theorem describe_eq_ok {text : String} (described : account.describe = .ok text) :
    (∃ context problem, shown account.context = .ok context ∧ shown account.problem = .ok problem ∧
      text = context ++ ": " ++ problem) ∨
    shown account.problem = .ok text ∨ ∃ said, text = account.beginning said := by
  cases told : account.problem.isTruthy with
  | false =>
      rw [describe_of_no_problem told] at described
      obtain ⟨said, -, rfl⟩ := map_eq_ok_iff.mp described
      exact .inr (.inr ⟨said, rfl⟩)
  | true =>
      cases introduced : account.context.isTruthy with
      | false =>
          rw [describe_of_problem told introduced] at described
          exact .inr (.inl described)
      | true =>
          rw [describe_of_both told introduced] at described
          obtain ⟨context, context_eq, described⟩ := bind_eq_ok_iff.mp described
          obtain ⟨problem, problem_eq, ended⟩ := bind_eq_ok_iff.mp described
          cases ended
          exact .inl ⟨context, problem, context_eq, problem_eq, rfl⟩

/-- A description is on one line if the texts of the context and of the problem are. -/
theorem isOneLine_of_describe {text : String} (described : account.describe = .ok text)
    (context_one : ∀ context, shown account.context = .ok context → IsOneLine context)
    (problem_one : ∀ problem, shown account.problem = .ok problem → IsOneLine problem) :
    IsOneLine text := by
  have colon_one : IsOneLine ": " := by decide
  rcases account.describe_eq_ok described with
    ⟨context, problem, context_eq, problem_eq, rfl⟩ | problem_eq | ⟨said, rfl⟩
  · have front_one := (context_one context context_eq).append colon_one
    exact front_one.append (problem_one problem problem_eq)
  · exact problem_one text problem_eq
  · exact account.beginning_isOneLine said

/-- An error whose parts can be written is described, on one line if its context and its problem
are. A problem that counts is the description, behind the context if that counts as well; without
one the description is the beginning of what the error says, or its name if it says nothing. It
cannot be described exactly if the parts in question cannot be written, and complaints of the reader
always can. -/
theorem describe_tells :
    (account.problem.isTruthy = true → ∀ problem, shown account.problem = .ok problem →
      (account.context.isTruthy = false → account.describe = .ok problem) ∧
        ∀ context, account.context.isTruthy = true → shown account.context = .ok context →
          account.describe = .ok (context ++ ": " ++ problem)) ∧
    (account.problem.isTruthy = false → ∀ said, account.text = .ok said →
      account.describe = .ok (account.beginning said)) ∧
    (∀ text, account.describe = .ok text →
      (∀ context, shown account.context = .ok context → IsOneLine context) →
        (∀ problem, shown account.problem = .ok problem → IsOneLine problem) → IsOneLine text) ∧
    (∀ fault, account.describe = .error fault ↔ account.Mute fault) ∧
    ∀ complaint : Complaint, (ofComplaint complaint).describe = .ok complaint.description := by
  refine ⟨?_, ?_, ?_, fun fault => account.describe_eq_error_iff, describe_ofComplaint⟩
  · intro told problem problem_eq
    constructor
    · intro alone
      rw [describe_of_problem told alone, problem_eq]
    · intro context introduced context_eq
      rw [describe_of_both told introduced, context_eq, problem_eq]
      rfl
  · intro untold said said_eq
    rw [describe_of_no_problem untold, said_eq]
    rfl
  · intro text described context_one problem_one
    exact account.isOneLine_of_describe described context_one problem_one

/-- An error made of an integer of 5001 digits has no text, and neither has one whose note is no
text. -/
theorem describe_breaks :
    (¬∀ arguments, ∃ text, (plain arguments).describe = .ok text) ∧
      ¬∀ note, ∃ text, (marked .null .null note).describe = .ok text := by
  have no_digits : (plain [.int (.ofNat (Nat.pow 10 5000))]).describe.isOk = false := by
    decide +kernel
  have no_note : (marked .null .null (.bool true)).describe.isOk = false := by decide +kernel
  constructor
  · intro described
    obtain ⟨text, described⟩ := described [.int (.ofNat (Nat.pow 10 5000))]
    rw [described] at no_digits
    cases no_digits
  · intro described
    obtain ⟨text, described⟩ := described (.bool true)
    rw [described] at no_note
    cases no_note

end Account

end Yaml

end BundleLint
