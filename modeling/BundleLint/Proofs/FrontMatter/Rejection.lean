import BundleLint.Proofs.FrontMatter.Reading
import BundleLint.Proofs.Yaml.Compose
import BundleLint.Proofs.Yaml.Construct
import Mathlib.Data.List.TakeWhile

/-!
# Rejected blocks

A block that cannot be read is rejected as a wrong front matter, unless its fault is one that the
reader does not report. There are two ways to such a fault: a character that no document may hold,
and the text of a node that does not fit the type of the node.
-/

namespace BundleLint.FrontMatter

open Yaml (Fault Graph isAllowed)

/-- A block of which the fault is not reported. -/
inductive Unreported (block : List Char) : Fault → Prop
  | character {before after : List Char} {c : Char} (block_eq : block = before ++ c :: after)
      (allowed : ∀ d ∈ before, isAllowed d) (forbidden : ¬isAllowed c) :
      Unreported block (.unprintable c before.length)
  | misfit {root : Nat} {graph : Graph} {fault : Fault} (allowed : ∀ c ∈ block, isAllowed c)
      (composed : Yaml.compose { text := block, ending := none } = .ok (some root, graph))
      (failed : Yaml.construct root graph = .error fault) (misfit : graph.HasMisfit fault) :
      Unreported block fault

theorem firstForbidden?_eq_none_iff {block : List Char} :
    Yaml.firstForbidden? block = none ↔ ∀ c ∈ block, isAllowed c := by
  simp [Yaml.firstForbidden?]

/-- The first forbidden character is the one after the allowed characters. -/
theorem firstForbidden?_eq_some_iff {block : List Char} {c : Char} {start : Nat} :
    Yaml.firstForbidden? block = some (c, start) ↔
      ∃ before after, block = before ++ c :: after ∧ (∀ d ∈ before, isAllowed d) ∧
        ¬isAllowed c ∧ start = before.length := by
  unfold Yaml.firstForbidden?
  constructor
  · intro found
    obtain ⟨first, first_eq, parts_eq⟩ := Option.map_eq_some_iff.mp found
    obtain ⟨rfl, rfl⟩ := Prod.mk.inj parts_eq
    obtain ⟨forbidden, before, after, rfl, allowed⟩ := List.find?_eq_some_iff_append.mp first_eq
    have before_allowed : ∀ d ∈ before, isAllowed d := by simpa using allowed
    have first_forbidden : ¬isAllowed first := by simpa using forbidden
    refine ⟨before, after, rfl, before_allowed, first_forbidden, ?_⟩
    rw [List.takeWhile_append_of_pos before_allowed, List.takeWhile_cons_of_neg first_forbidden,
      List.append_nil]
  · rintro ⟨before, after, rfl, allowed, forbidden, rfl⟩
    have found : (before ++ c :: after).find? (fun d => !isAllowed d) = some c :=
      List.find?_eq_some_iff_append.mpr
        ⟨by simpa using forbidden, before, after, rfl, by simpa using allowed⟩
    rw [found, Option.map_some, List.takeWhile_append_of_pos allowed,
      List.takeWhile_cons_of_neg forbidden, List.append_nil]

theorem reading_of_forbidden {block : List Char} {c : Char} {start : Nat}
    (found : Yaml.firstForbidden? block = some (c, start)) :
    reading block = .error (.unprintable c start) := by
  have refused : Yaml.Source.ofText block = .error (.unprintable c start) :=
    ofText_eq_error_iff.mpr ⟨c, start, found, rfl⟩
  unfold reading
  rw [refused]
  rfl

theorem reading_of_allowed {block : List Char} (allowed : ∀ c ∈ block, isAllowed c) :
    reading block = Yaml.load { text := block, ending := none } := by
  have admitted : Yaml.Source.ofText block = .ok { text := block, ending := none } := by
    unfold Yaml.Source.ofText
    rw [firstForbidden?_eq_none_iff.mpr allowed]
  unfold reading
  rw [admitted]
  rfl

/-- A block fails to be read with a fault that is not reported in exactly these ways: its tokens
and its nodes have reported faults only. -/
theorem unreported_iff {block : List Char} {fault : Fault} :
    Unreported block fault ↔ reading block = .error fault ∧ ¬fault.IsReported := by
  constructor
  · intro unreported
    cases unreported with
    | character block_eq allowed forbidden =>
        have found := firstForbidden?_eq_some_iff.mpr ⟨_, _, block_eq, allowed, forbidden, rfl⟩
        exact ⟨reading_of_forbidden found, id⟩
    | misfit allowed composed failed misfit =>
        obtain ⟨id, node, text, -, -, node_misfit⟩ := misfit
        refine ⟨?_, node_misfit.not_isReported⟩
        rw [reading_of_allowed allowed]
        unfold Yaml.load
        rw [composed]
        change (Yaml.construct _ _ >>= _) = _
        rw [failed]
        rfl
  · rintro ⟨failed, not_reported⟩
    cases found : Yaml.firstForbidden? block with
    | some place =>
        obtain ⟨c, start⟩ := place
        rw [reading_of_forbidden found] at failed
        obtain rfl := Except.error.inj failed
        obtain ⟨before, after, block_eq, allowed, forbidden, rfl⟩ :=
          firstForbidden?_eq_some_iff.mp found
        exact .character block_eq allowed forbidden
    | none =>
        have allowed := firstForbidden?_eq_none_iff.mp found
        rw [reading_of_allowed allowed] at failed
        rcases Yaml.error_of_bind failed with not_composed | ⟨⟨root, graph⟩, composed, loaded⟩
        · exact absurd (Yaml.compose_isReported not_composed) not_reported
        · cases root with
          | none => cases loaded
          | some root =>
              rcases Yaml.error_of_bind loaded with not_built | ⟨parts, -, ended⟩
              · rcases Yaml.construct_failsWith not_built with reported | misfit
                · exact absurd reported not_reported
                · exact .misfit allowed composed not_built misfit
              · cases ended

/-- Reported faults are those that make a wrong front matter. -/
theorem failureOf_cases (block : List Char) (fault : Fault) :
    (fault.IsReported ∧ ∃ rejection, failureOf block fault = .rejected rejection) ∨
      (¬fault.IsReported ∧ failureOf block fault = .escaped fault) := by
  cases fault with
  | complaint complaint => exact .inl ⟨trivial, _, rfl⟩
  | value fault => exact .inl ⟨trivial, _, rfl⟩
  | tooDeep => exact .inl ⟨trivial, _, rfl⟩
  | unprintable found start => exact .inr ⟨id, rfl⟩
  | undecodable malformed => exact .inr ⟨id, rfl⟩
  | unknownWord word => exact .inr ⟨id, rfl⟩
  | emptyNumber => exact .inr ⟨id, rfl⟩
  | notTimestamp => exact .inr ⟨id, rfl⟩

/-- A block that cannot be read is rejected, unless its fault is not reported. -/
theorem settings_of_error {block : List Char} {fault : Fault}
    (failed : reading block = .error fault) (reported : ¬Unreported block fault) :
    ∃ rejection, settings block = .error (.rejected rejection) := by
  rw [settings_eq, failed]
  rcases failureOf_cases block fault with ⟨-, rejection, rejects⟩ | ⟨not_reported, -⟩
  · exact ⟨rejection, congrArg Except.error rejects⟩
  · exact absurd (unreported_iff.mpr ⟨failed, not_reported⟩) reported

/-- The faults that escape from the settings of a block are the unreported ones. -/
theorem settings_eq_escaped_iff {block : List Char} {fault : Fault} :
    settings block = .error (.escaped fault) ↔ Unreported block fault := by
  rw [settings_eq, unreported_iff]
  constructor
  · intro escapes
    split at escapes
    · rename_i own failed
      rcases failureOf_cases block own with ⟨-, rejection, rejects⟩ | ⟨not_reported, escaped⟩
      · rw [rejects] at escapes
        cases escapes
      · rw [escaped] at escapes
        obtain rfl : own = fault := Failure.escaped.inj (Except.error.inj escapes)
        exact ⟨failed, not_reported⟩
    · cases escapes
    · split at escapes
      · cases escapes
      · cases escapes
      · cases escapes
  · rintro ⟨failed, not_reported⟩
    rw [failed]
    rcases failureOf_cases block fault with ⟨reported, -⟩ | ⟨-, escaped⟩
    · exact absurd reported not_reported
    · exact congrArg Except.error escaped

/-- Only the settings of a file can make a fault escape. -/
theorem split_eq_escaped_iff {content : List Char} {fault : Fault} :
    split content = .error (.escaped fault) ↔
      ∃ block body, layout content = .block block body ∧ Unreported block fault := by
  unfold split
  cases layout_eq : layout content with
  | bodyOnly body => simp
  | unterminated => simp
  | block block body =>
      simp only [Layout.block.injEq, ← settings_eq_escaped_iff]
      cases found : settings block with
      | error failure => simp [found, bind, Except.bind]
      | ok config => simp [found, bind, Except.bind, pure, Except.pure]

end BundleLint.FrontMatter
