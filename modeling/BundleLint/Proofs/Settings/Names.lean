import BundleLint.Proofs.Settings.Sources
import BundleLint.Proofs.Text.Split
import BundleLint.Proofs.Text.Trim

/-!
# Lists of names

Names can be given as a list or as a text with commas between them, and the two agree. Blanks around
names are dropped, names of blanks only are left out, and what is read stays the same when it is
read again.
-/

namespace BundleLint.Settings

open Text (AllBlank IsTidy ofString shownString)

/-- What stands between names in a text. -/
def comma : CodePoint := .char ','

/-- The pieces that a value is read by: none, those between the commas of a text, or the texts of a
list. -/
inductive Pieces : Value → List (List CodePoint) → Prop
  | null : Pieces .null []
  | text {pieces : List (List CodePoint)} (some : pieces ≠ [])
      (free : ∀ piece ∈ pieces, comma ∉ piece) :
      Pieces (.text ([comma].intercalate pieces)) pieces
  | list (label : Option Nat) (pieces : List (List CodePoint)) :
      Pieces (.list label (pieces.map .text)) pieces

/-- What is kept of pieces: those of blanks only are left out, and the others lose the blanks around
them. Order and repetitions stay. -/
inductive Keeps : List (List CodePoint) → List (List CodePoint) → Prop
  | nil : Keeps [] []
  | blank {piece : List CodePoint} {pieces names : List (List CodePoint)}
      (all_blank : AllBlank piece) (rest : Keeps pieces names) : Keeps (piece :: pieces) names
  | name {before name after : List CodePoint} {pieces names : List (List CodePoint)}
      (before_blank : AllBlank before) (tidy : IsTidy name) (after_blank : AllBlank after)
      (rest : Keeps pieces names) : Keeps ((before ++ name ++ after) :: pieces) (name :: names)

/-- Names are read for what is shown of them when they are given as a list, and if they come from a
text also when they are joined by commas. -/
structure Rereads (value : Value) (names : List (List CodePoint)) (shown : List String) :
    Prop where
  /-- Reading the list of the names. -/
  list : ∀ label origin, readNames (.list label (names.map .text)) origin = .ok shown
  /-- Reading the names of a text between commas. -/
  text : (∃ text, value = .text text) →
    ∀ origin, readNames (.text ([comma].intercalate names)) origin = .ok shown

/-- The names that a value gives. -/
structure NamedBy (value : Value) (result : List String) (names : List (List CodePoint)) :
    Prop where
  /-- They are shown in the result. -/
  result_eq : result = names.map shownString
  /-- They are what is kept of the pieces of the value. -/
  kept : ∃ pieces, Pieces value pieces ∧ Keeps pieces names
  /-- They come out again. -/
  again : Rereads value names result

section Keeps

variable {pieces names : List (List CodePoint)}

theorem Keeps.tidy (keeps : Keeps pieces names) : ∀ name ∈ names, IsTidy name := by
  induction keeps with
  | nil => nofun
  | blank _ _ ih => exact ih
  | name _ tidy _ _ ih => exact List.forall_mem_cons.mpr ⟨tidy, ih⟩

/-- What no piece has, no name has. -/
theorem Keeps.free (keeps : Keeps pieces names) {point : CodePoint}
    (free : ∀ piece ∈ pieces, point ∉ piece) : ∀ name ∈ names, point ∉ name := by
  induction keeps with
  | nil => nofun
  | blank _ _ ih => exact ih fun piece member => free piece (List.mem_cons_of_mem _ member)
  | name _ _ _ _ ih =>
      refine List.forall_mem_cons.mpr ⟨?_, ih fun piece member =>
        free piece (List.mem_cons_of_mem _ member)⟩
      intro member
      refine free _ List.mem_cons_self ?_
      exact List.mem_append_left _ (List.mem_append_right _ member)

/-- Trimming pieces and leaving out empty ones keeps the names. -/
theorem exists_keeps (pieces : List (List CodePoint)) :
    ∃ names, Keeps pieces names ∧ tidyNames pieces = names.map shownString := by
  induction pieces with
  | nil => exact ⟨[], .nil, rfl⟩
  | cons piece pieces ih =>
      obtain ⟨names, keeps, shown_eq⟩ := ih
      unfold tidyNames at shown_eq ⊢
      by_cases nothing : Text.trim piece = []
      · refine ⟨names, .blank ((Text.trim_eq_nil_iff piece).mp nothing) keeps, ?_⟩
        rw [List.map_cons, List.filter_cons_of_neg (by simp [nothing]), shown_eq]
      · obtain ⟨before, after, parts, before_blank, after_blank⟩ := Text.exists_trim piece
        refine ⟨Text.trim piece :: names, ?_, ?_⟩
        · have named := Keeps.name before_blank (Text.trim_isTidy nothing) after_blank keeps
          rwa [← parts] at named
        · rw [List.map_cons, List.filter_cons_of_pos (by simp [nothing]), List.map_cons, shown_eq,
            List.map_cons]

theorem tidyNames_of_tidy (tidy : ∀ name ∈ names, IsTidy name) :
    tidyNames names = names.map shownString := by
  have trimmed : names.map Text.trim = names := by
    calc
      names.map Text.trim = names.map id :=
        List.map_congr_left fun name member => (tidy name member).trim_eq
      _ = names := List.map_id names
  have all_kept : names.filter (!·.isEmpty) = names := by
    refine List.filter_eq_self.mpr fun name member => ?_
    simpa using (tidy name member).ne_nil
  rw [tidyNames, trimmed, all_kept]

end Keeps

section Read

variable {value : Value} {origin : String} {result : List String}
  {names pieces : List (List CodePoint)}

theorem readNames_list (label : Option Nat) (names : List (List CodePoint)) (origin : String) :
    readNames (.list label (names.map .text)) origin = .ok (tidyNames names) :=
  (readNames_takes _ _ _).mpr (.list label names)

/-- A text of names without commas, joined by commas, is read like the list of the names. -/
theorem readNames_intercalate (free : ∀ name ∈ names, comma ∉ name) (origin : String) :
    readNames (.text ([comma].intercalate names)) origin = .ok (tidyNames names) := by
  have read := (readNames_takes _ origin _).mpr (.text ([comma].intercalate names))
  by_cases none : names = []
  · -- The empty text has one piece, which is empty.
    subst none
    exact read
  · rw [read]
    exact congrArg (fun pieces => Except.ok (tidyNames pieces))
      (Text.splitAt_intercalate free none)

theorem readNames_eq_ok_iff :
    readNames value origin = .ok result ↔
      ∃ pieces, Pieces value pieces ∧ result = tidyNames pieces := by
  rw [readNames_takes]
  constructor
  · intro lists
    cases lists with
    | null => exact ⟨[], .null, rfl⟩
    | text text =>
        refine ⟨Text.splitAt comma text, ?_, rfl⟩
        have pieces := Pieces.text (Text.splitAt_ne_nil comma text)
          fun piece member => Text.not_mem_of_mem_splitAt member
        rwa [Text.intercalate_splitAt] at pieces
    | list label texts => exact ⟨texts, .list label texts, rfl⟩
  · rintro ⟨pieces, given, rfl⟩
    cases given with
    | null => exact .null
    | text some free =>
        exact (readNames_takes _ "" _).mp (readNames_intercalate free "")
    | list label => exact .list label pieces

theorem rereads_of_tidy (tidy : ∀ name ∈ names, IsTidy name)
    (free : (∃ text, value = .text text) → ∀ name ∈ names, comma ∉ name) :
    Rereads value names (names.map shownString) where
  list := by
    intro label origin
    rw [readNames_list, tidyNames_of_tidy tidy]
  text := by
    intro is_text origin
    rw [readNames_intercalate (free is_text), tidyNames_of_tidy tidy]

/-- Shown names that are tidy, and free of commas if they come from a text, are read again as they
are. -/
theorem rereads_of_shown (tidy : ∀ name ∈ result, IsTidy (ofString name))
    (free : (∃ text, value = .text text) → ∀ name ∈ result, comma ∉ ofString name) :
    Rereads value (result.map ofString) result := by
  have shown_again : (result.map ofString).map shownString = result := by
    rw [List.map_map]
    calc
      result.map (shownString ∘ ofString) = result.map id :=
        List.map_congr_left fun name _ => Text.shownString_ofString name
      _ = result := List.map_id result
  have again :
      Rereads value (result.map ofString) ((result.map ofString).map shownString) :=
    rereads_of_tidy (List.forall_mem_map.mpr tidy)
      fun is_text => List.forall_mem_map.mpr (free is_text)
  rwa [shown_again] at again

end Read

/-- Names without commas are read alike from a list and from the text that joins them by commas.
Whatever is accepted gives names that are tidy, in the order of the pieces of the value and as often
as they come there; they come out again when they are read as a list, and those of a text also when
they are joined by commas. -/
theorem readNames_spellings (origin : String) :
    (∀ (label : Option Nat) (names : List (List CodePoint)), (∀ name ∈ names, comma ∉ name) →
      ∃ result, readNames (.text ([comma].intercalate names)) origin = .ok result ∧
        readNames (.list label (names.map .text)) origin = .ok result) ∧
      ∀ value result, readNames value origin = .ok result →
        (∃ names, NamedBy value result names) ∧ (∀ name ∈ result, IsTidy (ofString name)) ∧
          Rereads value (result.map ofString) result := by
  constructor
  · intro label names free
    exact ⟨tidyNames names, readNames_intercalate free origin, readNames_list label names origin⟩
  · intro value result read
    obtain ⟨pieces, given, result_eq⟩ := readNames_eq_ok_iff.mp read
    obtain ⟨names, keeps, shown_eq⟩ := exists_keeps pieces
    obtain rfl := result_eq.trans shown_eq
    have free : (∃ text, value = .text text) → ∀ name ∈ names, comma ∉ name := by
      rintro ⟨text, rfl⟩
      cases given with
      | text _ pieces_free => exact keeps.free pieces_free
    have shown_tidy : ∀ shown ∈ names.map shownString, IsTidy (ofString shown) :=
      List.forall_mem_map.mpr fun name member => (keeps.tidy name member).shown
    have shown_free : (∃ text, value = .text text) →
        ∀ shown ∈ names.map shownString, comma ∉ ofString shown := by
      intro is_text
      refine List.forall_mem_map.mpr fun name member shown_comma => ?_
      exact free is_text name member (Text.mem_of_mem_shownString (by decide) shown_comma)
    exact ⟨⟨names, rfl, ⟨pieces, given, keeps⟩, rereads_of_tidy keeps.tidy free⟩, shown_tidy,
      rereads_of_shown shown_tidy shown_free⟩

/-- Names with blanks around them, among them a blank one and one that comes twice. -/
def paddedNames : List (List CodePoint) :=
  ["a ", "", "\u2003b c", " \u2028", "a"].map ofString

theorem readNames_spellings_padded :
    readNames (.text ([comma].intercalate paddedNames)) "x" = .ok ["a", "b c", "a"] ∧
      readNames (.list none (paddedNames.map .text)) "x" = .ok ["a", "b c", "a"] ∧
      (∃ names, NamedBy (.text ([comma].intercalate paddedNames)) ["a", "b c", "a"] names) ∧
      (∀ name ∈ ["a", "b c", "a"], IsTidy (ofString name)) ∧
      Rereads (.text ([comma].intercalate paddedNames)) (["a", "b c", "a"].map ofString)
        ["a", "b c", "a"] := by
  have read_text :
      readNames (.text ([comma].intercalate paddedNames)) "x" = .ok ["a", "b c", "a"] := by
    decide +kernel
  obtain ⟨agree, accepted⟩ := readNames_spellings "x"
  obtain ⟨result, joined, listed⟩ := agree none paddedNames (by decide)
  obtain rfl := Except.ok.inj (joined.symm.trans read_text)
  exact ⟨read_text, listed, accepted _ _ read_text⟩

end BundleLint.Settings
