import Mathlib.Data.List.Forall2

/-!
# Outcomes

How sequences, lists and renamings of computations that can fail come to their results and errors.
-/

namespace BundleLint

variable {Error Changed Item Result Next : Type}

theorem bind_eq_ok_iff {first : Except Error Result} {next : Result → Except Error Next}
    {final : Next} :
    first >>= next = .ok final ↔ ∃ result, first = .ok result ∧ next result = .ok final := by
  cases first with
  | error own => simp [bind, Except.bind]
  | ok result => simp [bind, Except.bind]

/-- A sequence of two computations fails in the first or in the second one. -/
theorem bind_eq_error_iff {first : Except Error Result} {next : Result → Except Error Next}
    {error : Error} :
    first >>= next = .error error ↔
      first = .error error ∨ ∃ result, first = .ok result ∧ next result = .error error := by
  cases first with
  | error own => simp [bind, Except.bind]
  | ok result => simp [bind, Except.bind]

theorem map_eq_ok_iff {outcome : Except Error Result} {change : Result → Next} {final : Next} :
    outcome.map change = .ok final ↔ ∃ result, outcome = .ok result ∧ change result = final := by
  cases outcome <;> simp [Except.map]

theorem map_eq_error_iff {outcome : Except Error Result} {change : Result → Next} {error : Error} :
    outcome.map change = .error error ↔ outcome = .error error := by
  cases outcome <;> simp [Except.map]

theorem isOk_iff {outcome : Except Error Result} :
    outcome.isOk = true ↔ ∃ result, outcome = .ok result := by
  cases outcome <;> simp [Except.isOk, Except.toBool]

theorem toOption_map_eq_some_iff {outcome : Except Error Result} {view : Result → Next}
    {seen : Next} :
    outcome.toOption.map view = some seen ↔
      ∃ result, outcome = .ok result ∧ view result = seen := by
  cases outcome <;> simp [Except.toOption]

section MapError

variable {outcome : Except Error Result} {change : Error → Changed}

theorem mapError_eq_ok_iff {result : Result} :
    outcome.mapError change = .ok result ↔ outcome = .ok result := by
  cases outcome <;> simp [Except.mapError]

theorem mapError_eq_error_iff {error : Changed} :
    outcome.mapError change = .error error ↔ ∃ own, outcome = .error own ∧ change own = error := by
  cases outcome <;> simp [Except.mapError]

end MapError

/-- A list of computations gives the list of their results. -/
theorem forall₂_of_mapM {read : Item → Except Error Result} {items : List Item}
    {results : List Result} (ran : items.mapM read = .ok results) :
    List.Forall₂ (fun item result => read item = .ok result) items results := by
  induction items generalizing results with
  | nil =>
      cases ran
      exact .nil
  | cons item items ih =>
      rw [List.mapM_cons] at ran
      obtain ⟨result, result_eq, ran⟩ := bind_eq_ok_iff.mp ran
      obtain ⟨others, others_eq, ran⟩ := bind_eq_ok_iff.mp ran
      cases ran
      exact .cons result_eq (ih others_eq)

theorem mapM_eq_ok_iff {read : Item → Except Error Result} {items : List Item}
    {results : List Result} :
    items.mapM read = .ok results ↔
      List.Forall₂ (fun item result => read item = .ok result) items results := by
  refine ⟨forall₂_of_mapM, ?_⟩
  intro each
  induction each with
  | nil => rfl
  | cons result_eq _ ih =>
      rw [List.mapM_cons, result_eq]
      exact bind_eq_ok_iff.mpr ⟨_, rfl, bind_eq_ok_iff.mpr ⟨_, ih, rfl⟩⟩

theorem forall_of_forall₂ {Related : Item → Result → Prop} {Holds : Result → Prop}
    {items : List Item} {results : List Result} (each : List.Forall₂ Related items results)
    (holds : ∀ item result, Related item result → Holds result) :
    ∀ result ∈ results, Holds result := by
  induction each with
  | nil => simp
  | cons related _ ih => exact List.forall_mem_cons.mpr ⟨holds _ _ related, ih⟩

theorem exists_of_forall₂ {Related : Item → Result → Prop} {items : List Item}
    {results : List Result} (each : List.Forall₂ Related items results) {item : Item}
    (member : item ∈ items) : ∃ result ∈ results, Related item result := by
  induction each with
  | nil => cases member
  | cons related _ ih =>
      rcases List.mem_cons.mp member with rfl | later
      · exact ⟨_, List.mem_cons_self, related⟩
      · obtain ⟨result, found, related⟩ := ih later
        exact ⟨result, List.mem_cons_of_mem _ found, related⟩

/-- Items that have results one by one have a list of them. -/
theorem exists_forall₂ {Related : Item → Result → Prop} {items : List Item}
    (each : ∀ item ∈ items, ∃ result, Related item result) :
    ∃ results, List.Forall₂ Related items results := by
  induction items with
  | nil => exact ⟨[], .nil⟩
  | cons item items ih =>
      obtain ⟨here, others⟩ := List.forall_mem_cons.mp each
      obtain ⟨result, related⟩ := here
      obtain ⟨results, rest⟩ := ih others
      exact ⟨result :: results, .cons related rest⟩

end BundleLint
