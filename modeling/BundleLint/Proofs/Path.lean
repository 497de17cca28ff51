import BundleLint.Path
import BundleLint.Proofs.Text.Split
import Mathlib.Data.List.TakeWhile

/-!
# Paths as text

Reading a path leaves at most two slashes in front of plain components. Such a path is found again
when its text is read.
-/

namespace BundleLint.Path

/-- A path in the form in which it is read. -/
structure IsPlain (path : Path) : Prop where
  /-- At most two leading slashes count. -/
  roots_le : path.roots ≤ 2
  /-- No component is empty. -/
  not_empty : ∀ part ∈ path.parts, part.toList ≠ []
  /-- No component is a single dot. -/
  not_dot : ∀ part ∈ path.parts, part.toList ≠ ['.']
  /-- No component contains a slash. -/
  no_slash : ∀ part ∈ path.parts, '/' ∉ part.toList

theorem rootsOf_le (text : List Char) : rootsOf text ≤ 2 := by
  unfold rootsOf
  split <;> decide

theorem ofText_isPlain (text : String) : (ofText text).IsPlain := by
  have components : ∀ part ∈ (ofText text).parts,
      part.toList ∈ Text.splitAt '/' text.toList ∧ part.toList ≠ [] ∧ part.toList ≠ ['.'] := by
    intro part member
    obtain ⟨own, kept, rfl⟩ := List.mem_map.mp member
    simpa using kept
  exact
    { roots_le := rootsOf_le text.toList
      not_empty := fun part member => (components part member).2.1
      not_dot := fun part member => (components part member).2.2
      no_slash := fun part member => Text.not_mem_of_mem_splitAt (components part member).1 }

theorem splitAt_slashes (count : Nat) (rest : List Char) :
    Text.splitAt '/' (List.replicate count '/' ++ rest) =
      List.replicate count [] ++ Text.splitAt '/' rest := by
  induction count with
  | zero => rfl
  | succ count ih =>
      rw [List.replicate_succ, List.cons_append, Text.splitAt, ih]
      rfl

theorem text_toList {path : Path} (parts_ne : path.parts ≠ []) :
    path.text.toList =
      List.replicate path.roots '/' ++ ['/'].intercalate (path.parts.map String.toList) := by
  simp [text, parts_ne]

/-- Components that are joined do not begin with a slash. -/
theorem head?_intercalate {names : List (List Char)} (not_empty : ∀ name ∈ names, name ≠ [])
    (no_slash : ∀ name ∈ names, '/' ∉ name) : (['/'].intercalate names).head? ≠ some '/' := by
  cases names with
  | nil => simp
  | cons first rest =>
      obtain ⟨c, others, rfl⟩ := List.exists_cons_of_ne_nil (not_empty first List.mem_cons_self)
      have c_ne := List.ne_of_not_mem_cons (no_slash _ List.mem_cons_self)
      cases rest with
      | nil => simpa using c_ne.symm
      | cons second rest => simpa [List.intercalate_cons_cons] using c_ne.symm

theorem rootsOf_slashes {count : Nat} (count_le : count ≤ 2) {rest : List Char}
    (ends : rest.head? ≠ some '/') : rootsOf (List.replicate count '/' ++ rest) = count := by
  have taken : (List.replicate count '/' ++ rest).takeWhile (· == '/') =
      List.replicate count '/' := by
    rw [List.takeWhile_append_of_pos (by simp)]
    cases rest with
    | nil => simp
    | cons c rest => simpa using ends
  rw [rootsOf, taken, List.length_replicate]
  obtain rfl | rfl | rfl : count = 0 ∨ count = 1 ∨ count = 2 := by omega
  · rfl
  · rfl
  · rfl

/-- The text of a plain path is read as the path. -/
theorem IsPlain.ofText_text {path : Path} (plain : path.IsPlain) : ofText path.text = path := by
  obtain ⟨roots, parts⟩ := path
  have roots_le := plain.roots_le
  by_cases parts_eq : parts = []
  · subst parts_eq
    obtain rfl | rfl | rfl : roots = 0 ∨ roots = 1 ∨ roots = 2 := by
      dsimp only at roots_le
      omega
    · rfl
    · rfl
    · rfl
  · have text_eq := text_toList (show (⟨roots, parts⟩ : Path).parts ≠ [] from parts_eq)
    have not_empty : ∀ name ∈ parts.map String.toList, name ≠ [] :=
      List.forall_mem_map.mpr plain.not_empty
    have not_dot : ∀ name ∈ parts.map String.toList, name ≠ ['.'] :=
      List.forall_mem_map.mpr plain.not_dot
    have no_slash : ∀ name ∈ parts.map String.toList, '/' ∉ name :=
      List.forall_mem_map.mpr plain.no_slash
    have names_kept :
        (parts.map String.toList).filter (fun part => !part.isEmpty && part != ['.']) =
          parts.map String.toList := by
      rw [List.filter_eq_self]
      intro name member
      simp [not_empty name member, not_dot name member]
    rw [ofText, text_eq, rootsOf_slashes roots_le (head?_intercalate not_empty no_slash),
      splitAt_slashes, Text.splitAt_intercalate no_slash (by simpa using parts_eq)]
    simp [names_kept]

/-- Reading a path, writing it and reading it again gives the same path. -/
theorem ofText_text_ofText (text : String) : ofText (ofText text).text = ofText text :=
  (ofText_isPlain text).ofText_text

end BundleLint.Path
