import BundleLint.Text.CodePoint
import BundleLint.Text.Split
import Mathlib.Data.List.Basic

/-!
# Splitting, joining and sorting

Splitting a text at a separator is undone by joining the parts with it, and the other way round for
parts without the separator. Sorting puts texts in order and keeps each of them.
-/

namespace BundleLint.Text

section Split

variable {Symbol : Type} [BEq Symbol]

theorem splitAt_eq_splitOn (separator : Symbol) (text : List Symbol) :
    splitAt separator text = text.splitOn separator := by
  induction text with
  | nil => simp [splitAt]
  | cons c rest ih =>
      have parts_ne : splitAt separator rest ≠ [] := by
        rw [ih]
        exact List.splitOn_ne_nil separator rest
      rw [List.splitOn_cons_eq_if_modifyHead, ← ih, splitAt]
      cases parts_eq : splitAt separator rest with
      | nil => exact absurd parts_eq parts_ne
      | cons part parts => rfl

theorem splitAt_ne_nil (separator : Symbol) (text : List Symbol) :
    splitAt separator text ≠ [] := by
  rw [splitAt_eq_splitOn]
  exact List.splitOn_ne_nil separator text

variable [LawfulBEq Symbol] {separator : Symbol} {text part : List Symbol}
  {parts : List (List Symbol)}

/-- Joining the parts of a text gives the text back. -/
theorem intercalate_splitAt (separator : Symbol) (text : List Symbol) :
    [separator].intercalate (splitAt separator text) = text := by
  rw [splitAt_eq_splitOn]
  exact List.intercalate_splitOn separator

/-- A text that is joined from parts without the separator is split into these parts. -/
theorem splitAt_intercalate (free : ∀ part ∈ parts, separator ∉ part) (parts_ne : parts ≠ []) :
    splitAt separator ([separator].intercalate parts) = parts := by
  rw [splitAt_eq_splitOn]
  exact List.splitOn_intercalate separator free parts_ne

/-- What stands before the first separator is split together with what follows. -/
theorem splitOn_append_of_not_mem {front : List Symbol} (free : separator ∉ front)
    (back : List Symbol) :
    (front ++ back).splitOn separator = (back.splitOn separator).modifyHead (front ++ ·) := by
  induction front with
  | nil => exact (congrFun List.modifyHead_id _).symm
  | cons c front ih =>
      obtain ⟨c_ne, front_free⟩ := List.ne_and_not_mem_of_not_mem_cons free
      have inner : (c == separator) = false := by simpa using c_ne.symm
      rw [List.cons_append, List.splitOn_cons_eq_if_modifyHead, ih front_free, inner, if_neg nofun,
        List.modifyHead_modifyHead]
      rfl

/-- A text that is joined from parts is split into what the parts are split into. -/
theorem splitOn_intercalate_eq_flatMap (parts_ne : parts ≠ []) :
    ([separator].intercalate parts).splitOn separator = parts.flatMap (·.splitOn separator) := by
  induction parts with
  | nil => exact absurd rfl parts_ne
  | cons first others ih =>
      cases others with
      | nil => simp
      | cons second others =>
          rw [List.intercalate_cons_cons, List.append_assoc, List.singleton_append,
            List.splitOn_append_cons_self, ih nofun, ← List.flatMap_cons]

/-- No part of a text contains the separator. -/
theorem not_mem_of_mem_splitAt (member : part ∈ splitAt separator text) : separator ∉ part := by
  induction text generalizing part with
  | nil =>
      obtain rfl := List.mem_singleton.mp member
      exact List.not_mem_nil
  | cons c rest ih =>
      rw [splitAt] at member
      split at member
      · rcases List.mem_cons.mp member with rfl | later
        · exact List.not_mem_nil
        · exact ih later
      · rename_i inner
        have c_ne : separator ≠ c := fun same => inner (by simp [same])
        cases parts_eq : splitAt separator rest with
        | nil => exact absurd parts_eq (splitAt_ne_nil separator rest)
        | cons first others =>
            rw [parts_eq] at member ih
            rcases List.mem_cons.mp member with rfl | later
            · exact List.not_mem_cons_of_ne_of_not_mem c_ne (ih List.mem_cons_self)
            · exact ih (List.mem_cons_of_mem _ later)

end Split

section Sorting

variable {Item : Type} {comesBefore : Item → Item → Bool}

theorem insertSorted_perm (item : Item) (items : List Item) :
    (insertSorted comesBefore item items).Perm (item :: items) := by
  induction items with
  | nil => exact .refl _
  | cons first rest ih =>
      rw [insertSorted]
      split
      · exact .refl _
      · exact (ih.cons first).trans (.swap ..)

/-- Sorting keeps each text as often as it was there. -/
theorem sorted_perm (items : List Item) : (sorted comesBefore items).Perm items := by
  induction items with
  | nil => exact .refl _
  | cons item items ih => exact (insertSorted_perm item _).trans (ih.cons item)

theorem sorted_eq_nil_iff {items : List Item} : sorted comesBefore items = [] ↔ items = [] := by
  have same : (sorted comesBefore items).Perm items := sorted_perm items
  constructor
  · intro none
    rw [none] at same
    exact same.symm.eq_nil
  · rintro rfl
    rfl

/-- Texts in the order of their code points: none comes before an earlier one. -/
def InOrder (texts : List (List CodePoint)) : Prop :=
  texts.Pairwise fun first second => Text.comesBefore second first = false

section

variable {first second third text : List CodePoint} {texts : List (List CodePoint)}

theorem comesBefore_eq_false_iff :
    Text.comesBefore second first = false ↔
      ¬second.map CodePoint.code < first.map CodePoint.code := by
  simp [Text.comesBefore]

theorem comesBefore_asymm (before : Text.comesBefore first second = true) :
    Text.comesBefore second first = false := by
  have first_lt : first.map CodePoint.code < second.map CodePoint.code := by
    simpa [Text.comesBefore] using before
  exact comesBefore_eq_false_iff.mpr (List.not_lt.mpr (List.le_of_lt first_lt))

theorem not_comesBefore_trans (left : Text.comesBefore second first = false)
    (right : Text.comesBefore third second = false) : Text.comesBefore third first = false := by
  rw [comesBefore_eq_false_iff] at left right ⊢
  exact List.not_lt.mpr (List.le_trans (List.not_lt.mp left) (List.not_lt.mp right))

theorem insertSorted_inOrder (ordered : InOrder texts) :
    InOrder (insertSorted Text.comesBefore text texts) := by
  induction texts with
  | nil => exact List.pairwise_singleton ..
  | cons first rest ih =>
      obtain ⟨least, rest_ordered⟩ := List.pairwise_cons.mp ordered
      rw [insertSorted]
      split
      · rename_i before
        refine List.pairwise_cons.mpr ⟨?_, ordered⟩
        intro other member
        rcases List.mem_cons.mp member with rfl | later
        · exact comesBefore_asymm before
        · exact not_comesBefore_trans (comesBefore_asymm before) (least other later)
      · rename_i not_before
        refine List.pairwise_cons.mpr ⟨?_, ih rest_ordered⟩
        intro other member
        rcases List.mem_cons.mp ((insertSorted_perm text rest).mem_iff.mp member) with rfl | later
        · exact Bool.not_eq_true _ ▸ not_before
        · exact least other later

theorem sorted_inOrder (texts : List (List CodePoint)) :
    InOrder (sorted Text.comesBefore texts) := by
  induction texts with
  | nil => exact .nil
  | cons text texts ih => exact insertSorted_inOrder ih

end

end Sorting

end BundleLint.Text
