import BundleLint.FrontMatter

/-!
# Reading a block

What the settings of a front matter are, by what the reader makes of its block, and what a fault of
the reader means for the file.
-/

namespace BundleLint.FrontMatter

open Yaml (Document Fault Source)

/-- What the reader makes of a block: it is admitted as a whole and then loaded. -/
def reading (block : List Char) : Except Fault (Option Document) := do
  Yaml.load (← Source.ofText block)

/-- A block that reads as settings: nothing and the absent value stand for no settings. -/
inductive Reads (block : List Char) : Mapping → Prop
  | nothing (read : reading block = .ok none) : Reads block .empty
  | null {document : Document} (read : reading block = .ok (some document))
      (value_eq : document.value = .null) : Reads block .empty
  | mapping {document : Document} {label : Option Nat} {entries : List (Value × Value)}
      (read : reading block = .ok (some document))
      (value_eq : document.value = .map label entries) :
      Reads block { label, entries }

/-- A text is admitted unless it holds a character that no document may hold. -/
theorem ofText_eq_error_iff {block : List Char} {fault : Fault} :
    Source.ofText block = .error fault ↔
      ∃ c start, Yaml.firstForbidden? block = some (c, start) ∧ fault = .unprintable c start := by
  unfold Source.ofText
  cases Yaml.firstForbidden? block with
  | none => simp
  | some found =>
      obtain ⟨c, start⟩ := found
      constructor
      · rintro ⟨⟩
        exact ⟨c, start, rfl, rfl⟩
      · rintro ⟨_, _, ⟨⟩, rfl⟩
        rfl

/-- The settings of a block by what the reader makes of it. -/
theorem settings_eq (block : List Char) :
    settings block =
      match reading block with
      | .error fault => .error (failureOf block fault)
      | .ok none => .ok .empty
      | .ok (some document) =>
        match document.value with
        | .null => .ok .empty
        | .map label entries => .ok { label, entries }
        | value =>
          .error <| .rejected
            { defect := .notMapping value
              position := some (filePosition block document.start) } := by
  cases admitted : Source.ofText block with
  | error fault =>
      obtain ⟨c, start, -, rfl⟩ := ofText_eq_error_iff.mp admitted
      unfold settings reading
      rw [admitted]
      rfl
  | ok source =>
      have reading_eq : reading block = Yaml.load source := by
        unfold reading
        rw [admitted]
        rfl
      unfold settings
      rw [reading_eq, admitted]
      change (Except.mapError (failureOf block) (Yaml.load source) >>= _) = _
      cases Yaml.load source with
      | error fault => rfl
      | ok found =>
          cases found with
          | none => rfl
          | some document =>
              obtain ⟨value, start⟩ := document
              cases value <;> rfl

/-- The settings of a block are found exactly if it reads as settings. -/
theorem settings_eq_ok_iff {block : List Char} {config : Mapping} :
    settings block = .ok config ↔ Reads block config := by
  rw [settings_eq]
  constructor
  · intro found
    split at found
    · cases found
    · rename_i read
      cases found
      exact .nothing read
    · rename_i document read
      split at found
      · rename_i value_eq
        cases found
        exact .null read value_eq
      · rename_i value_eq
        cases found
        exact .mapping read value_eq
      · cases found
  · intro reads
    cases reads with
    | nothing read => simp [read]
    | null read value_eq => simp [read, value_eq]
    | mapping read value_eq => simp [read, value_eq]

end BundleLint.FrontMatter
