import BundleLint.Proofs.Yaml.Contained
import BundleLint.Yaml.Scan.Block
import BundleLint.Yaml.Scan.Directive
import BundleLint.Yaml.Scan.Plain
import BundleLint.Yaml.Scan.Quoted

/-!
# Faults of scanning

Whatever scans a document leaves alone what lies beyond its text, and breaks off with a fault that
is reported or with the one that lies beyond the text.
-/

namespace BundleLint.Yaml

/-- Faults that are reported as defects of a document: complaints, values that cannot be built and
collections that are nested too deeply. -/
def Fault.IsReported : Fault → Prop
  | .complaint _ | .value _ | .tooDeep => True
  | .unprintable .. | .undecodable _ | .unknownWord _ | .emptyNumber | .notTimestamp => False

instance : DecidablePred Fault.IsReported := fun fault =>
  match fault with
  | .complaint _ | .value _ | .tooDeep => isTrue trivial
  | .unprintable .. | .undecodable _ | .unknownWord _ | .emptyNumber | .notTimestamp =>
    isFalse not_false

/-- The faults with which a document with a given ending breaks off. -/
def BreaksWith (ending : Option Fault) (fault : Fault) : Prop :=
  fault.IsReported ∨ ending = some fault

section Faults

variable {ending : Option Fault}

@[grind .]
theorem breaksWith_plain (problem : Problem) (start : Nat) :
    BreaksWith ending (.plain problem start) :=
  .inl trivial

@[grind .]
theorem breaksWith_during (activity : Activity) (subject : Subject) (began : Nat)
    (problem : Problem) (start : Nat) :
    BreaksWith ending (.during activity subject began problem start) :=
  .inl trivial

@[grind .]
theorem breaksWith_complaint (complaint : Complaint) : BreaksWith ending (.complaint complaint) :=
  .inl trivial

@[grind .]
theorem breaksWith_value (fault : ValueFault) : BreaksWith ending (.value fault) :=
  .inl trivial

@[grind .]
theorem breaksWith_tooDeep : BreaksWith ending .tooDeep :=
  .inl trivial

end Faults

/-- A computation leaves the ending of a document alone and breaks off with its faults only. -/
abbrev Scans {Result : Type} (ending : Option Fault) (read : Read Result) : Prop :=
  Contained (fun cursor : Cursor => cursor.ending = ending) (BreaksWith ending) read

@[simp]
theorem Cursor.step_ending (cursor : Cursor) : cursor.step.ending = cursor.ending := by
  unfold step
  split
  · rfl
  · dsimp only
    split
    · split <;> split <;> rfl
    · split <;> rfl

@[simp]
theorem Cursor.steps_ending (cursor : Cursor) (count : Nat) :
    (cursor.steps count).ending = cursor.ending := by
  induction count generalizing cursor with
  | zero => rfl
  | succ count ih => rw [steps, ih, step_ending]

namespace Read

variable {ending : Option Fault}

/-- The ending comes up as soon as a character beyond the text is asked for. -/
@[grind ←]
theorem demand_scans (distance : Nat) : Scans ending (demand distance) := by
  unfold demand
  refine Contained.get_bind fun cursor kept => ?_
  split
  · rename_i ending_eq
    exact Contained.throw (.inr (kept.symm.trans ending_eq))
  · exact Contained.pure _

@[grind ←]
theorem peek_scans (distance : Nat) : Scans ending (peek distance) := by
  unfold peek
  grind

@[grind ←]
theorem upcoming_scans (count : Nat) : Scans ending (upcoming count) := by
  unfold upcoming
  grind

@[grind ←]
theorem count_scans (distance : Nat) (condition : Char → Bool) :
    Scans ending (count distance condition) := by
  unfold count
  grind

@[grind ←]
theorem advance_scans (distance : Nat) : Scans ending (advance distance) := by
  unfold advance
  refine (demand_scans distance).bind fun _ => Contained.update fun cursor kept => ?_
  exact (cursor.steps_ending distance).trans kept

@[grind ←]
theorem take_scans (distance : Nat) : Scans ending (take distance) := by
  unfold take
  grind

@[grind ←]
theorem takeWhile_scans (condition : Char → Bool) : Scans ending (takeWhile condition) := by
  unfold takeWhile
  grind

@[grind ←]
theorem skipSpaces_scans : Scans ending skipSpaces := by
  unfold skipSpaces
  grind

@[grind ←]
theorem skipLine_scans : Scans ending skipLine := by
  unfold skipLine
  grind

@[grind ←]
theorem offset_scans : Scans ending offset := by
  unfold offset
  grind

@[grind ←]
theorem size_scans : Scans ending size := by
  unfold size
  grind

@[grind ←]
theorem lineBreak_scans : Scans ending lineBreak := by
  unfold lineBreak
  grind

@[grind ←]
theorem atMarks_scans (mark : Char) : Scans ending (atMarks mark) := by
  unfold atMarks
  grind

@[grind ←]
theorem atDocumentMark_scans : Scans ending atDocumentMark := by
  unfold atDocumentMark
  grind

@[grind ←]
theorem refuse_scans {Result : Type} (activity : Activity) (subject : Subject) (began : Nat)
    (problem : Problem) :
    Scans ending (refuse activity subject began problem : Read Result) := by
  unfold refuse
  grind

@[grind ←]
theorem finishLine_scans (subject : Subject) (began : Nat) :
    Scans ending (finishLine subject began) := by
  unfold finishLine
  grind

end Read

namespace Scan

open Read

variable {ending : Option Fault}

/-! ## Block scalars -/

@[grind ←]
theorem chomping?_scans : Scans ending chomping? := by
  unfold chomping?
  grind

@[grind ←]
theorem increment?_scans (began : Nat) : Scans ending (increment? began) := by
  unfold increment?
  grind

@[grind ←]
theorem blockHeader_scans (began : Nat) : Scans ending (blockHeader began) := by
  unfold blockHeader
  grind

@[grind ←]
theorem leadingBlanks_scans (steps deepest stop : Nat) :
    Scans ending (leadingBlanks steps deepest stop) := by
  induction steps generalizing deepest stop with
  | zero => exact Contained.pure _
  | succ steps ih =>
      unfold leadingBlanks
      grind

@[grind ←]
theorem skipIndentation_scans (indent : Nat) : Scans ending (skipIndentation indent) := by
  unfold skipIndentation
  grind

@[grind ←]
theorem blankLines_scans (indent steps stop : Nat) :
    Scans ending (blankLines indent steps stop) := by
  induction steps generalizing stop with
  | zero => exact Contained.pure _
  | succ steps ih =>
      unfold blankLines
      grind

@[grind ←]
theorem blockLines_scans (folded : Bool) (chomping : Chomping) (indent steps : Nat)
    (breaks : List Char) (stop : Nat) :
    Scans ending (blockLines folded chomping indent steps breaks stop) := by
  induction steps generalizing breaks stop with
  | zero => exact Contained.pure _
  | succ steps ih =>
      unfold blockLines
      refine (peek_scans 0).bind fun first => ?_
      refine (takeWhile_scans _).bind fun text => ?_
      refine lineBreak_scans.bind fun lineEnd => ?_
      refine size_scans.bind fun bound => ?_
      grind

@[grind ←]
theorem blockScalar_scans (parent : Int) (folded : Bool) :
    Scans ending (blockScalar parent folded) := by
  unfold blockScalar
  refine offset_scans.bind fun began => ?_
  refine (advance_scans 1).bind fun _ => ?_
  refine (blockHeader_scans began).bind fun header => ?_
  refine (finishLine_scans .blockScalar began).bind fun _ => ?_
  dsimp only
  split
  · grind
  · grind

/-! ## Tags and names -/

@[grind ←]
theorem requireHex_scans {refusal : Char → Read Unit} (refuses : ∀ c, Scans ending (refusal c))
    (distance width : Nat) : Scans ending (requireHex refusal distance width) := by
  induction width generalizing distance with
  | zero => exact Contained.pure _
  | succ width ih =>
      unfold requireHex
      grind

@[grind ←]
theorem escapedBytes_scans (subject : Subject) (began steps : Nat) :
    Scans ending (escapedBytes subject began steps) := by
  induction steps with
  | zero => exact Contained.pure _
  | succ steps ih =>
      unfold escapedBytes
      grind

@[grind ←]
theorem escapedText_scans (subject : Subject) (began : Nat) :
    Scans ending (escapedText subject began) := by
  unfold escapedText
  grind

@[grind ←]
theorem addressRest_scans (subject : Subject) (began steps : Nat) :
    Scans ending (addressRest subject began steps) := by
  induction steps with
  | zero => exact Contained.pure _
  | succ steps ih =>
      unfold addressRest
      grind

@[grind ←]
theorem address_scans (subject : Subject) (began : Nat) : Scans ending (address subject began) := by
  unfold address
  grind

@[grind ←]
theorem handle_scans (subject : Subject) (began : Nat) : Scans ending (handle subject began) := by
  unfold handle
  grind

@[grind ←]
theorem hasSecondMark_scans : Scans ending hasSecondMark := by
  unfold hasSecondMark
  grind

@[grind ←]
theorem writtenTag_scans (began : Nat) : Scans ending (writtenTag began) := by
  unfold writtenTag
  grind

@[grind ←]
theorem tag_scans : Scans ending tag := by
  unfold tag
  grind

@[grind ←]
theorem name_scans (subject : Subject) : Scans ending (name subject) := by
  unfold name
  grind

/-! ## Directives -/

@[grind ←]
theorem refuseDirective_scans {Result : Type} (began : Nat) (expected : String) (found : Char) :
    Scans ending (refuseDirective began expected found : Read Result) := by
  unfold refuseDirective
  grind

@[grind ←]
theorem directiveName_scans (began : Nat) : Scans ending (directiveName began) := by
  unfold directiveName
  grind

@[grind ←]
theorem versionNumber_scans (began : Nat) : Scans ending (versionNumber began) := by
  unfold versionNumber
  grind

@[grind ←]
theorem version_scans (began : Nat) : Scans ending (version began) := by
  unfold version
  refine skipSpaces_scans.bind fun _ => ?_
  refine (versionNumber_scans began).bind fun major => ?_
  grind

@[grind ←]
theorem tagHandle_scans (began : Nat) : Scans ending (tagHandle began) := by
  unfold tagHandle
  refine skipSpaces_scans.bind fun _ => ?_
  refine (handle_scans .directive began).bind fun name => ?_
  grind

@[grind ←]
theorem directive_scans : Scans ending directive := by
  unfold directive
  grind

/-! ## Plain scalars -/

@[grind ←]
theorem plainRun_scans (inFlow : Bool) : Scans ending (plainRun inFlow) := by
  unfold plainRun
  grind

@[grind ←]
theorem plainBreaks_scans (steps : Nat) : Scans ending (plainBreaks steps) := by
  induction steps with
  | zero => exact Contained.pure _
  | succ steps ih =>
      unfold plainBreaks
      grind

@[grind ←]
theorem plainGap_scans : Scans ending plainGap := by
  unfold plainGap
  refine (takeWhile_scans _).bind fun blanks => ?_
  refine lineBreak_scans.bind fun lineEnd => ?_
  split
  · exact Contained.pure _
  · grind

@[grind ←]
theorem plainPieces_scans (inFlow : Bool) (indent : Int) (steps : Nat) (gap : List Char)
    (stop : Nat) (beforeBreak : Bool) :
    Scans ending (plainPieces inFlow indent steps gap stop beforeBreak) := by
  induction steps generalizing gap stop beforeBreak with
  | zero => exact Contained.pure _
  | succ steps ih =>
      unfold plainPieces
      refine (peek_scans 0).bind fun first => ?_
      split
      · exact Contained.pure _
      · refine (plainRun_scans inFlow).bind fun size => ?_
        split
        · exact Contained.pure _
        · refine (take_scans size).bind fun piece => ?_
          refine offset_scans.bind fun stop => ?_
          grind

@[grind ←]
theorem plainScalar_scans (inFlow : Bool) (parent : Int) :
    Scans ending (plainScalar inFlow parent) := by
  unfold plainScalar
  grind

/-! ## Quoted scalars -/

@[grind ←]
theorem quotedBreaks_scans (began steps : Nat) : Scans ending (quotedBreaks began steps) := by
  induction steps with
  | zero => exact Contained.pure _
  | succ steps ih =>
      unfold quotedBreaks
      refine atDocumentMark_scans.bind fun marked => ?_
      split
      · grind
      · grind

@[grind ←]
theorem escape_scans (began : Nat) : Scans ending (escape began) := by
  unfold escape
  refine (peek_scans 0).bind fun c => ?_
  split
  · grind
  · refine (advance_scans 1).bind fun _ => ?_
    refine (requireHex_scans (fun _ => refuse_scans _ _ _ _) 0 _).bind fun _ => ?_
    grind
  · grind

@[grind ←]
theorem quotedText_scans (mark : Char) (began steps : Nat) :
    Scans ending (quotedText mark began steps) := by
  induction steps with
  | zero => exact Contained.pure _
  | succ steps ih =>
      unfold quotedText
      grind

@[grind ←]
theorem quotedGap_scans (began : Nat) : Scans ending (quotedGap began) := by
  unfold quotedGap
  refine (takeWhile_scans _).bind fun blanks => ?_
  refine (peek_scans 0).bind fun c => ?_
  split
  · grind
  · refine lineBreak_scans.bind fun lineEnd => ?_
    grind

@[grind ←]
theorem quotedRest_scans (mark : Char) (began steps : Nat) :
    Scans ending (quotedRest mark began steps) := by
  induction steps with
  | zero => exact Contained.pure _
  | succ steps ih =>
      unfold quotedRest
      grind

@[grind ←]
theorem quotedScalar_scans (mark : Char) : Scans ending (quotedScalar mark) := by
  unfold quotedScalar
  grind

end Scan

end BundleLint.Yaml
