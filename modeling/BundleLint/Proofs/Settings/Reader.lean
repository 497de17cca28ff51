import BundleLint.Proofs.Text.Stream
import BundleLint.Proofs.Yaml.Compose
import BundleLint.Proofs.Yaml.Construct
import BundleLint.Yaml.Load
import BundleLint.Yaml.Source
import Mathlib.Logic.Basic

/-!
# Reading a settings file

What the reader makes of the bytes of a settings file. Complaints and characters that no document
may hold are errors of the document. In four ways the reader breaks off with something else.
-/

namespace BundleLint

namespace Settings

open Yaml (Document Fault Graph Source)

/-- Faults of the reader that are told as errors of the document. -/
def Told : Fault → Prop
  | .complaint _ | .unprintable .. => True
  | .undecodable _ | .value _ | .unknownWord _ | .emptyNumber | .notTimestamp | .tooDeep => False

/-- What the reader makes of the bytes of a file. -/
def reading (bytes : List UInt8) : Except Fault (Option Document) := do
  Yaml.load (← Source.ofBytes bytes)

/-- How the reader breaks off with a fault that is no error of the document: the bytes are not
UTF-8, a value cannot be built, collections are nested too deeply, or the text of a node does not
fit its type. -/
inductive BreaksOff (bytes : List UInt8) : Fault → Prop
  | undecodable {malformed : Text.Utf8.Malformed}
      (failed : reading bytes = .error (.undecodable malformed))
      (refused : ∀ text, Text.Utf8.decode bytes ≠ .ok text) :
      BreaksOff bytes (.undecodable malformed)
  | value {fault : Yaml.ValueFault} (failed : reading bytes = .error (.value fault)) :
      BreaksOff bytes (.value fault)
  | tooDeep (failed : reading bytes = .error .tooDeep) : BreaksOff bytes .tooDeep
  | misfit {source : Source} {root : Nat} {graph : Graph} {fault : Fault}
      (admitted : Source.ofBytes bytes = .ok source)
      (composed : Yaml.compose source = .ok (some root, graph))
      (failed : Yaml.construct root graph = .error fault) (misfit : graph.HasMisfit fault) :
      BreaksOff bytes fault

theorem misfit_not_told {tag : Yaml.Tag} {text : List CodePoint} {fault : Fault}
    (misfit : Yaml.Misfit tag text fault) : ¬Told fault := by
  cases misfit with
  | word => exact id
  | integer => exact id
  | real => exact id
  | timestamp => exact id

/-- A fault about the bytes of a file: a character that no document may hold, or bytes that are
not UTF-8. -/
def IsOfBytes (bytes : List UInt8) (fault : Fault) : Prop :=
  Told fault ∨
    ∃ malformed, fault = .undecodable malformed ∧ ∀ text, Text.Utf8.decode bytes ≠ .ok text

theorem isOfBytes_undecodable {bytes : List UInt8} {piece : Nat} {malformed : Text.Utf8.Malformed}
    (failed : (Text.stream bytes).failure = some (piece, malformed)) :
    IsOfBytes bytes (.undecodable malformed) := by
  refine .inr ⟨malformed, rfl, ?_⟩
  intro text decoded
  rw [Text.stream_failure decoded] at failed
  cases failed

/-- A source is cut, if at all, before a fault about its bytes. -/
theorem ofBytes_eq (bytes : List UInt8) :
    ∃ barrier : Option (Nat × Fault),
      (∀ size fault, barrier = some (size, fault) → IsOfBytes bytes fault) ∧
        Source.ofBytes bytes =
          match barrier with
          | none => .ok { text := (Text.stream bytes).text, ending := none }
          | some (size, fault) =>
            if size == 0 then .error fault
            else .ok { text := (Text.stream bytes).text.take size, ending := some fault } := by
  refine ⟨_, ?_, rfl⟩
  intro size fault barrier_eq
  cases failure_eq : (Text.stream bytes).failure with
  | none =>
      cases forbidden_eq : Yaml.firstForbidden? (Text.stream bytes).text with
      | none =>
          rw [failure_eq, forbidden_eq] at barrier_eq
          cases barrier_eq
      | some place =>
          rw [failure_eq, forbidden_eq] at barrier_eq
          cases barrier_eq
          exact .inl trivial
  | some failure =>
      have undecodable := isOfBytes_undecodable failure_eq
      cases forbidden_eq : Yaml.firstForbidden? (Text.stream bytes).text with
      | none =>
          rw [failure_eq, forbidden_eq] at barrier_eq
          cases barrier_eq
          exact undecodable
      | some place =>
          rw [failure_eq, forbidden_eq] at barrier_eq
          rcases ite_eq_iff.mp (Option.some.inj barrier_eq) with ⟨-, ⟨⟩⟩ | ⟨-, ⟨⟩⟩
          · exact undecodable
          · exact .inl trivial

theorem isOfBytes_of_refused {bytes : List UInt8} {fault : Fault}
    (refused : Source.ofBytes bytes = .error fault) : IsOfBytes bytes fault := by
  obtain ⟨barrier, of_bytes, source_eq⟩ := ofBytes_eq bytes
  rw [source_eq] at refused
  split at refused
  · cases refused
  · split at refused
    · cases refused
      exact of_bytes _ _ rfl
    · cases refused

theorem isOfBytes_of_ending {bytes : List UInt8} {source : Source} {fault : Fault}
    (admitted : Source.ofBytes bytes = .ok source) (ending_eq : source.ending = some fault) :
    IsOfBytes bytes fault := by
  obtain ⟨barrier, of_bytes, source_eq⟩ := ofBytes_eq bytes
  rw [source_eq] at admitted
  split at admitted
  · cases admitted
    cases ending_eq
  · split at admitted
    · cases admitted
    · cases admitted
      cases ending_eq
      exact of_bytes _ _ rfl

/-- The reader breaks off with no error of the document in exactly these ways. -/
theorem breaksOff_iff {bytes : List UInt8} {fault : Fault} :
    BreaksOff bytes fault ↔ reading bytes = .error fault ∧ ¬Told fault := by
  constructor
  · intro breaks
    cases breaks with
    | undecodable failed refused => exact ⟨failed, id⟩
    | value failed => exact ⟨failed, id⟩
    | tooDeep failed => exact ⟨failed, id⟩
    | misfit admitted composed failed misfit =>
        obtain ⟨id, node, text, -, -, node_misfit⟩ := misfit
        refine ⟨?_, misfit_not_told node_misfit⟩
        unfold reading Yaml.load
        rw [admitted]
        change (Yaml.compose _ >>= _) = _
        rw [composed]
        change (Yaml.construct _ _ >>= _) = _
        rw [failed]
        rfl
  · rintro ⟨failed, not_told⟩
    have of_reported (reported : fault.IsReported) : BreaksOff bytes fault := by
      cases fault with
      | value fault => exact .value failed
      | tooDeep => exact .tooDeep failed
      | complaint complaint => exact absurd trivial not_told
      | unprintable found start => exact absurd trivial not_told
      | undecodable malformed => cases reported
      | unknownWord word => cases reported
      | emptyNumber => cases reported
      | notTimestamp => cases reported
    have of_bytes (ofBytes : IsOfBytes bytes fault) : BreaksOff bytes fault := by
      rcases ofBytes with told | ⟨malformed, rfl, refused⟩
      · exact absurd told not_told
      · exact .undecodable failed refused
    rcases Yaml.error_of_bind failed with refused | ⟨source, admitted, not_loaded⟩
    · exact of_bytes (isOfBytes_of_refused refused)
    · rcases Yaml.error_of_bind not_loaded with not_composed | ⟨⟨root, graph⟩, composed, loaded⟩
      · rcases Yaml.compose_breaksWith not_composed with reported | ending_eq
        · exact of_reported reported
        · exact of_bytes (isOfBytes_of_ending admitted ending_eq)
      · cases root with
        | none => cases loaded
        | some root =>
            rcases Yaml.error_of_bind loaded with not_built | ⟨parts, -, ended⟩
            · rcases Yaml.construct_failsWith not_built with reported | misfit
              · exact of_reported reported
              · exact .misfit admitted composed not_built misfit
            · cases ended

end Settings

end BundleLint
