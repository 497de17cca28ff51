import BundleLint.Proofs.Yaml.Scan
import BundleLint.Yaml.Lexer

/-!
# Faults of tokens

The tokens of a document end, if they do not end with the document, with a fault that is reported
or with the fault beyond the text.
-/

namespace BundleLint.Yaml

/-- A computation scans a document, whatever is known between two tokens. -/
def Lexes {Result : Type} (ending : Option Fault) (computation : Lex Result) : Prop :=
  ∀ lexer, Scans ending (computation.run lexer)

namespace Lexes

variable {Result Next : Type} {ending : Option Fault}

@[grind ←]
theorem pure (result : Result) : Lexes ending (Pure.pure result : Lex Result) :=
  fun lexer => Contained.pure (result, lexer)

@[grind ←]
theorem throw {fault : Fault} (breaks : BreaksWith ending fault) :
    Lexes ending (MonadExcept.throw fault : Lex Result) :=
  fun _ => Contained.throw breaks

@[grind ←]
theorem bind {first : Lex Result} {next : Result → Lex Next} (first_lexes : Lexes ending first)
    (next_lexes : ∀ result, Lexes ending (next result)) : Lexes ending (first >>= next) := by
  intro lexer
  rw [StateT.run_bind]
  exact (first_lexes lexer).bind fun ended => next_lexes ended.1 ended.2

@[grind ←]
theorem get : Lexes ending (MonadState.get : Lex Lexer) :=
  fun lexer => Contained.pure (lexer, lexer)

@[grind ←]
theorem set (lexer : Lexer) : Lexes ending (MonadStateOf.set lexer : Lex PUnit) :=
  fun _ => Contained.pure ((), lexer)

@[grind ←]
theorem update (change : Lexer → Lexer) : Lexes ending (modify change : Lex PUnit) :=
  fun lexer => Contained.pure ((), change lexer)

theorem ite {condition : Prop} [Decidable condition] {yes no : Lex Result}
    (yes_lexes : Lexes ending yes) (no_lexes : Lexes ending no) :
    Lexes ending (if condition then yes else no) := by
  split
  · exact yes_lexes
  · exact no_lexes

/-- What scans a document does so between two tokens. -/
@[grind ←]
theorem lift {read : Read Result} (scans : Scans ending read) :
    Lexes ending (liftM read : Lex Result) := by
  intro lexer
  exact scans.bind fun result => Contained.pure (result, lexer)

end Lexes

namespace Lex

open Read Scan

variable {ending : Option Fault}

@[grind ←]
theorem cursor_lexes : Lexes ending cursor :=
  Lexes.lift Contained.get

@[grind ←]
theorem inFlow_lexes : Lexes ending inFlow := by
  unfold inFlow
  grind

@[grind ←]
theorem place_lexes (token : Token) (start : Nat) : Lexes ending (place token start) := by
  unfold place
  grind

@[grind ←]
theorem placeHere_lexes (token : Token) : Lexes ending (placeHere token) := by
  unfold placeHere
  grind

@[grind ←]
theorem placeNext_lexes (token : Token) (size : Nat) : Lexes ending (placeNext token size) := by
  unfold placeNext
  grind

@[grind ←]
theorem setAllowKey_lexes (allowKey : Bool) : Lexes ending (setAllowKey allowKey) := by
  unfold setAllowKey
  grind

@[grind ←]
theorem refuseKey_lexes (key : PossibleKey) : Lexes ending (refuseKey key) := by
  unfold refuseKey
  grind

@[grind ←]
theorem dropStaleKeys_lexes : Lexes ending dropStaleKeys := by
  unfold dropStaleKeys
  grind

@[grind ←]
theorem currentKey?_lexes : Lexes ending currentKey? := by
  unfold currentKey?
  grind

@[grind ←]
theorem forgetKey_lexes : Lexes ending forgetKey := by
  unfold forgetKey
  grind

@[grind ←]
theorem dropKey_lexes : Lexes ending dropKey := by
  unfold dropKey
  grind

@[grind ←]
theorem saveKey_lexes : Lexes ending saveKey := by
  unfold saveKey
  grind

@[grind ←]
theorem unwind_lexes (column : Int) : Lexes ending (unwind column) := by
  unfold unwind
  grind

@[grind ←]
theorem indentTo_lexes (column : Int) : Lexes ending (indentTo column) := by
  unfold indentTo
  grind

@[grind ←]
theorem skipBlanks_lexes (steps : Nat) : Lexes ending (skipBlanks steps) := by
  induction steps with
  | zero => exact Lexes.pure _
  | succ steps ih =>
      unfold skipBlanks
      refine (Lexes.lift skipSpaces_scans).bind fun _ => ?_
      refine (Lexes.lift (peek_scans 0)).bind fun c => ?_
      dsimp only
      split
      · grind
      · grind

@[grind ←]
theorem toNextToken_lexes : Lexes ending toNextToken := by
  unfold toNextToken
  grind

@[grind ←]
theorem leaveBlocks_lexes : Lexes ending leaveBlocks := by
  unfold leaveBlocks
  grind

@[grind ←]
theorem streamEnd_lexes : Lexes ending streamEnd := by
  unfold streamEnd
  grind

@[grind ←]
theorem directive_lexes : Lexes ending directive := by
  unfold directive
  grind

@[grind ←]
theorem documentMark_lexes (token : Token) : Lexes ending (documentMark token) := by
  unfold documentMark
  grind

@[grind ←]
theorem flowStart_lexes (token : Token) : Lexes ending (flowStart token) := by
  unfold flowStart
  grind

@[grind ←]
theorem flowEnd_lexes (token : Token) : Lexes ending (flowEnd token) := by
  unfold flowEnd
  grind

@[grind ←]
theorem flowEntry_lexes : Lexes ending flowEntry := by
  unfold flowEntry
  grind

@[grind ←]
theorem beginBlock_lexes (token : Token) (parts : String) :
    Lexes ending (beginBlock token parts) := by
  unfold beginBlock
  grind

@[grind ←]
theorem blockEntry_lexes : Lexes ending blockEntry := by
  unfold blockEntry
  grind

@[grind ←]
theorem key_lexes : Lexes ending key := by
  unfold key
  grind

@[grind ←]
theorem confirmKey_lexes (key : PossibleKey) : Lexes ending (confirmKey key) := by
  unfold confirmKey
  grind

@[grind ←]
theorem value_lexes : Lexes ending value := by
  unfold value
  grind

@[grind ←]
theorem node_lexes {scan : Read Token} (scans : Scans ending scan) : Lexes ending (node scan) := by
  unfold node
  grind

@[grind ←]
theorem blockScalar_lexes (folded : Bool) : Lexes ending (blockScalar folded) := by
  unfold blockScalar
  grind

@[grind ←]
theorem plainScalar_lexes : Lexes ending plainScalar := by
  unfold plainScalar
  grind

@[grind ←]
theorem isIndicator_lexes : Lexes ending isIndicator := by
  unfold isIndicator
  grind

@[grind ←]
theorem startsPlain_lexes : Lexes ending startsPlain := by
  unfold startsPlain
  grind

@[grind ←]
theorem contentToken_lexes (c : Char) : Lexes ending (contentToken c) := by
  unfold contentToken
  refine Lexes.ite (flowStart_lexes _) ?_
  refine Lexes.ite (flowStart_lexes _) ?_
  refine Lexes.ite (flowEnd_lexes _) ?_
  refine Lexes.ite (flowEnd_lexes _) ?_
  refine Lexes.ite flowEntry_lexes ?_
  refine (Lexes.lift (peek_scans 1)).bind fun next => ?_
  refine Lexes.ite blockEntry_lexes ?_
  refine isIndicator_lexes.bind fun marksKey => ?_
  refine Lexes.ite key_lexes ?_
  refine isIndicator_lexes.bind fun marksValue => ?_
  refine Lexes.ite value_lexes ?_
  refine Lexes.ite (node_lexes (name_scans .reference).map) ?_
  refine Lexes.ite (node_lexes (name_scans .anchor).map) ?_
  refine Lexes.ite (node_lexes tag_scans) ?_
  refine inFlow_lexes.bind fun literalInFlow => ?_
  refine Lexes.ite (blockScalar_lexes false) ?_
  refine inFlow_lexes.bind fun foldedInFlow => ?_
  refine Lexes.ite (blockScalar_lexes true) ?_
  refine Lexes.ite (node_lexes (quotedScalar_scans c).map) ?_
  refine startsPlain_lexes.bind fun isPlain => ?_
  refine Lexes.ite plainScalar_lexes ?_
  refine (Lexes.lift offset_scans).bind fun start => ?_
  exact Lexes.throw (breaksWith_complaint _)

/-- The next token, whatever it begins with. -/
@[grind ←]
theorem fetch_lexes : Lexes ending fetch := by
  unfold fetch
  refine toNextToken_lexes.bind fun _ => ?_
  refine dropStaleKeys_lexes.bind fun _ => ?_
  refine cursor_lexes.bind fun place => ?_
  refine (unwind_lexes _).bind fun _ => ?_
  refine (Lexes.lift (peek_scans 0)).bind fun c => ?_
  grind

@[grind ←]
theorem mustFetch_lexes : Lexes ending mustFetch := by
  unfold mustFetch
  grind

end Lex

/-- The fault that ends a run of tokens from a place in a document. -/
theorem runLexer_breaksWith {ending : Option Fault} {steps : Nat} {lexer : Lexer}
    {cursor : Cursor} (kept : cursor.ending = ending) {fault : Fault}
    (ends : (runLexer steps lexer cursor).fault = some fault) : BreaksWith ending fault := by
  induction steps generalizing lexer cursor with
  | zero => cases ends
  | succ steps ih =>
      have asked := Lex.mustFetch_lexes lexer cursor kept
      unfold runLexer at ends
      split at ends
      · rename_i asked_run
        rw [asked_run] at asked
        cases ends
        exact asked
      · rename_i between here asked_run
        rw [asked_run] at asked
        have fetched := Lex.fetch_lexes between here asked
        split at ends
        · rename_i fetched_run
          rw [fetched_run] at fetched
          cases ends
          exact fetched
        · rename_i fetched_run
          rw [fetched_run] at fetched
          exact ih fetched ends
      · rename_i asked_run
        rw [asked_run] at asked
        split at ends
        · cases ends
        · exact ih asked ends

theorem tokenize_breaksWith {source : Source} {fault : Fault}
    (ends : (tokenize source).fault = some fault) : BreaksWith source.ending fault :=
  runLexer_breaksWith rfl ends

end BundleLint.Yaml
