import BundleLint.Proofs.Yaml.Scan
import BundleLint.Yaml.Construct

/-!
# Texts that do not fit their types

The value of a scalar is tried from its text, and most texts that give no value are reported. Four
kinds of texts are not: words that stand for no truth value, integers and floating-point numbers
without any digit, and texts without the form of a date or a time.
-/

namespace BundleLint.Yaml

/-- A text that does not have the form that a type needs, with the fault that comes of it. -/
inductive Misfit : Tag → List CodePoint → Fault → Prop
  | word {text : List CodePoint}
      (unknown : ∀ known truth, (known, truth) ∈ Scalar.truthWords →
        Text.ofString known ≠ Text.lower text) :
      Misfit .bool text (.unknownWord (Text.lower text))
  | integer {text : List CodePoint}
      (empty : Scalar.withoutUnderscores text ∈
        ([[], [.char '+'], [.char '-']] : List (List CodePoint))) :
      Misfit .int text .emptyNumber
  | real {text : List CodePoint} (empty : Scalar.withoutUnderscores text = []) :
      Misfit .float text .emptyNumber
  | timestamp {text : List CodePoint}
      (formless : ∀ literal, Text.characters? text = some literal →
        timestampParts? (beforeFinalFeed literal) = none) :
      Misfit .timestamp text .notTimestamp

theorem Misfit.not_isReported {tag : Tag} {text : List CodePoint} {fault : Fault}
    (misfit : Misfit tag text fault) : ¬fault.IsReported := by
  cases misfit with
  | word => exact id
  | integer => exact id
  | real => exact id
  | timestamp => exact id

namespace Scalar

theorem readBool_fails {text : List CodePoint} {fault : Fault}
    (failed : readBool text = .error fault) : Misfit .bool text fault := by
  unfold readBool at failed
  dsimp only at failed
  split at failed
  · cases failed
  · rename_i not_found
    cases failed
    refine .word fun known truth member known_eq => ?_
    have differs := List.find?_eq_none.mp not_found (known, truth) member
    simp [known_eq] at differs

theorem isReported_of_integerIn {base : Nat} {text : List CodePoint} {fault : Fault}
    (failed : integerIn base text = .error fault) : fault.IsReported := by
  unfold integerIn at failed
  cases read : Number.readInteger base text with
  | ok number =>
      rw [read] at failed
      cases failed
  | error integerFault =>
      rw [read] at failed
      cases failed
      trivial

theorem readMagnitude_fails {text : List CodePoint} {fault : Fault}
    (failed : readMagnitude text = .error fault) :
    fault.IsReported ∨ (text = [] ∧ fault = .emptyNumber) := by
  unfold readMagnitude at failed
  split at failed
  · cases failed
    exact .inr ⟨rfl, rfl⟩
  · cases failed
  · exact .inl (isReported_of_integerIn failed)
  · exact .inl (isReported_of_integerIn failed)
  · exact .inl (isReported_of_integerIn failed)
  · split at failed
    · rcases error_of_bind failed with parts | ⟨values, -, ended⟩
      · obtain ⟨part, -, part_fails⟩ := error_of_mapM parts
        exact .inl (isReported_of_integerIn part_fails)
      · cases ended
    · exact .inl (isReported_of_integerIn failed)

/-- Only a sign can be left of an integer of which no digit is left. -/
theorem splitSign_eq_nil {text : List CodePoint} (empty : (splitSign text).2 = []) :
    text ∈ ([[], [.char '+'], [.char '-']] : List (List CodePoint)) := by
  unfold splitSign at empty
  split at empty
  · obtain rfl := empty
    simp
  · obtain rfl := empty
    simp
  · obtain rfl := empty
    simp

theorem readInt_fails {text : List CodePoint} {fault : Fault}
    (failed : readInt text = .error fault) : fault.IsReported ∨ Misfit .int text fault := by
  unfold readInt at failed
  split at failed
  · rename_i empty
    cases failed
    exact .inr (.integer (by simp [empty]))
  · rcases error_of_bind failed with magnitude | ⟨value, -, ended⟩
    · rcases readMagnitude_fails magnitude with reported | ⟨empty, rfl⟩
      · exact .inl reported
      · exact .inr (.integer (splitSign_eq_nil empty))
    · cases ended

theorem isReported_of_realOf {text : List CodePoint} {fault : Fault}
    (failed : realOf text = .error fault) : fault.IsReported := by
  unfold realOf at failed
  split at failed
  · cases failed
  · cases failed
    trivial

theorem isReported_of_sumSixties {sum : Float} {power : Nat} {digits : List Float} {fault : Fault}
    (failed : sumSixties sum power digits = .error fault) : fault.IsReported := by
  induction digits generalizing sum power with
  | nil => cases failed
  | cons digit digits ih =>
      unfold sumSixties at failed
      split at failed
      · exact ih failed
      · cases failed
        trivial

/-- Lower case keeps a text from vanishing. -/
theorem lower_eq_nil_iff {text : List CodePoint} : Text.lower text = [] ↔ text = [] := by
  cases text with
  | nil => simp [Text.lower, Text.lowerFrom]
  | cons point rest =>
      cases point with
      | char c =>
          have grows : Text.lowerBetween [] rest c ≠ [] := by
            unfold Text.lowerBetween
            grind
          simp [Text.lower, Text.lowerFrom, Text.points, grows]
      | surrogate index => simp [Text.lower, Text.lowerFrom]

theorem readFloat_fails {text : List CodePoint} {fault : Fault}
    (failed : readFloat text = .error fault) : fault.IsReported ∨ Misfit .float text fault := by
  unfold readFloat at failed
  split at failed
  · rename_i empty
    cases failed
    exact .inr (.real (lower_eq_nil_iff.mp empty))
  · left
    dsimp only at failed
    split at failed
    · cases failed
    · split at failed
      · cases failed
      · split at failed
        · rcases error_of_bind failed with parts | ⟨values, -, summed⟩
          · obtain ⟨part, -, part_fails⟩ := error_of_mapM parts
            exact isReported_of_realOf part_fails
          · rcases error_of_bind summed with sum | ⟨value, -, ended⟩
            · exact isReported_of_sumSixties sum
            · cases ended
        · rcases error_of_bind failed with real | ⟨value, -, ended⟩
          · exact isReported_of_realOf real
          · cases ended

theorem readBinary_fails {text : List CodePoint} {start : Nat} {fault : Fault}
    (failed : readBinary text start = .error fault) : fault.IsReported := by
  unfold readBinary at failed
  split at failed
  · cases failed
    trivial
  · cases decoded : Base64.decode (text.filterMap CodePoint.char?) with
    | ok bytes =>
        rw [decoded] at failed
        cases failed
    | error base64Fault =>
        rw [decoded] at failed
        cases failed
        trivial

end Scalar

/-- A date or a time that cannot be built is out of range, formless or no text at all. -/
theorem timestamp_fails {node : Node} {fault : Fault}
    (failed : Build.timestamp node = .error fault) :
    fault.IsReported ∨
      ∃ text, node.content = .scalar text ∧ Misfit .timestamp text fault := by
  unfold Build.timestamp at failed
  split at failed
  · rename_i text content_eq
    split at failed
    · rename_i parts _
      cases value : parts.value with
      | ok result =>
          rw [value] at failed
          cases failed
      | error calendarFault =>
          rw [value] at failed
          cases failed
          exact .inl trivial
    · rename_i formless
      cases failed
      refine .inr ⟨text, content_eq, .timestamp fun literal literal_eq => ?_⟩
      simpa [literal_eq] using formless
  · cases failed
    exact .inl trivial

end BundleLint.Yaml
