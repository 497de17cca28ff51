import BundleLint.Text.Blank
import Mathlib.Data.List.DropRight

/-!
# Blanks around a text, and texts as they are shown

Trimming takes the blanks off both ends of a text and nothing else. What is shown for surrogates is
neither a blank nor a comma, so showing a text makes no difference to either.
-/

namespace BundleLint.Text

/-- A text of blanks only. -/
def AllBlank (text : List CodePoint) : Prop :=
  ∀ point ∈ text, point.satisfies isBlank

/-- A text that is not empty and has no blanks at its ends. -/
structure IsTidy (text : List CodePoint) : Prop where
  /-- There is something. -/
  ne_nil : text ≠ []
  /-- It does not begin with a blank. -/
  head : ∀ point, text.head? = some point → ¬point.satisfies isBlank
  /-- It does not end with a blank. -/
  last : ∀ point, text.getLast? = some point → ¬point.satisfies isBlank

section Trim

variable {text : List CodePoint}

theorem trim_eq_rdropWhile (text : List CodePoint) :
    trim text =
      (text.dropWhile (·.satisfies isBlank)).rdropWhile (·.satisfies isBlank) :=
  rfl

/-- A text is what trimming leaves of it, between blanks. -/
theorem exists_trim (text : List CodePoint) :
    ∃ before after, text = before ++ trim text ++ after ∧ AllBlank before ∧ AllBlank after := by
  refine ⟨text.takeWhile (·.satisfies isBlank),
    (text.dropWhile (·.satisfies isBlank)).rtakeWhile (·.satisfies isBlank), ?_, ?_, ?_⟩
  · rw [trim_eq_rdropWhile, List.append_assoc, List.rdropWhile_append_rtakeWhile,
      List.takeWhile_append_dropWhile]
  · exact fun point member => List.mem_takeWhile_imp member
  · exact fun point member => List.mem_rtakeWhile_imp member

/-- Trimming leaves nothing of blank text and something of any other. -/
theorem trim_eq_nil_iff (text : List CodePoint) : trim text = [] ↔ AllBlank text := by
  constructor
  · intro nothing
    obtain ⟨before, after, parts, before_blank, after_blank⟩ := exists_trim text
    intro point member
    rw [parts, nothing, List.append_nil] at member
    exact (List.mem_append.mp member).elim (before_blank point) (after_blank point)
  · intro all_blank
    rw [trim_eq_rdropWhile, List.dropWhile_eq_nil_iff.mpr all_blank]
    rfl

theorem trim_isTidy (some : trim text ≠ []) : IsTidy (trim text) := by
  refine ⟨some, ?_, ?_⟩
  · intro point is_head
    have rest_head : (text.dropWhile (·.satisfies isBlank)).head? = .some point := by
      obtain ⟨after, parts⟩ := List.rdropWhile_prefix (·.satisfies isBlank)
        (text.dropWhile (·.satisfies isBlank))
      rw [← trim_eq_rdropWhile] at parts
      rw [← parts, List.head?_append, is_head]
      rfl
    have not_blank := List.head?_dropWhile_not (·.satisfies isBlank) text
    rw [rest_head] at not_blank
    exact Bool.not_eq_true _ ▸ not_blank
  · intro point is_last
    rw [List.getLast?_eq_some_getLast some] at is_last
    cases is_last
    exact List.rdropWhile_last_not _ _ some

/-- Trimming leaves a tidy text as it is. -/
theorem IsTidy.trim_eq (tidy : IsTidy text) : trim text = text := by
  have kept : text.dropWhile (·.satisfies isBlank) = text := by
    refine List.dropWhile_eq_self_iff.mpr fun filled => ?_
    refine tidy.head _ ?_
    rw [List.head?_eq_getElem?]
    exact List.getElem?_eq_getElem filled
  rw [trim_eq_rdropWhile, kept]
  refine List.rdropWhile_eq_self_iff.mpr fun some => ?_
  exact tidy.last _ (List.getLast?_eq_some_getLast some)

end Trim

section Shown

/-- Characters that are shown for surrogates. -/
def IsStandIn (c : Char) : Prop :=
  0xFFFD ≤ c.toNat

instance : DecidablePred IsStandIn := fun c => inferInstanceAs (Decidable (0xFFFD ≤ c.toNat))

theorem joinHalves_isStandIn {first second : Nat} (is_first : first < 1024)
    (is_second : second < 2048) : IsStandIn (joinHalves first second) := by
  have valid : (0x10000 + first * 1024 + (second - 1024)).isValidChar := by
    refine .inr ⟨?_, ?_⟩ <;> omega
  unfold IsStandIn joinHalves
  rw [Char.ofNat, dif_pos valid]
  change 0xFFFD ≤ 0x10000 + first * 1024 + (second - 1024)
  omega

theorem not_isBlank_of_isStandIn {c : Char} (stands_in : IsStandIn c) : isBlank c = false := by
  unfold IsStandIn at stands_in
  simp [isBlank]
  omega

theorem shown_points (text : List Char) : shown (points text) = text := by
  induction text with
  | nil => rfl
  | cons c rest ih =>
      rw [points, List.map_cons, shown]
      exact congrArg _ ih

theorem shown_points_append (front : List Char) (back : List CodePoint) :
    shown (points front ++ back) = front ++ shown back := by
  induction front with
  | nil => rfl
  | cons c front ih =>
      rw [points, List.map_cons, List.cons_append, shown, List.cons_append]
      exact congrArg _ ih

/-- Halves of characters do not join over a character between them. -/
theorem shown_append_char (front : List CodePoint) (c : Char) (back : List CodePoint) :
    shown (front ++ .char c :: back) = shown front ++ c :: shown back := by
  fun_induction shown front with
  | case1 => rfl
  | case2 d rest ih => simp [shown, ih]
  | case3 first second rest halves ih => simp [shown, halves, ih]
  | case4 first second rest apart ih => simp [shown, apart, ← ih]
  | case5 first rest lone ih =>
      cases rest with
      | nil => simp [shown]
      | cons point rest =>
          cases point with
          | char d => simpa [shown] using ih
          | surrogate second => exact absurd rfl (lone second rest)

/-- A text of characters is shown as it is. -/
theorem shownString_ofString (text : String) : shownString (ofString text) = text := by
  rw [shownString, ofString, shown_points, String.ofList_toList]

/-- Characters that are shown for a text: its own ones, and one that stands in for some surrogates
each. -/
inductive Shows : List CodePoint → List Char → Prop
  | nil : Shows [] []
  | own (c : Char) {text : List CodePoint} {shown : List Char} (rest : Shows text shown) :
      Shows (.char c :: text) (c :: shown)
  | standIn {c : Char} (stands_in : IsStandIn c) (halves : List CodePoint) {text : List CodePoint}
      {shown : List Char} (rest : Shows text shown) : Shows (halves ++ text) (c :: shown)

theorem shows_shown (text : List CodePoint) : Shows text (shown text) := by
  have replacement : IsStandIn '\ufffd' := by decide
  fun_induction shown text with
  | case1 => exact .nil
  | case2 c rest ih => exact .own c ih
  | case3 first second rest halves ih =>
      rw [Bool.and_eq_true, decide_eq_true_eq] at halves
      exact .standIn (joinHalves_isStandIn halves.1 second.isLt)
        [.surrogate first, .surrogate second] ih
  | case4 first second rest _ ih => exact .standIn replacement [.surrogate first] ih
  | case5 first rest _ ih => exact .standIn replacement [.surrogate first] ih

namespace Shows

variable {text : List CodePoint} {shown : List Char} {c : Char}

theorem mem (shows : Shows text shown) (member : c ∈ shown) : .char c ∈ text ∨ IsStandIn c := by
  induction shows with
  | nil => cases member
  | own own rest ih =>
      rcases List.mem_cons.mp member with rfl | later
      · exact .inl List.mem_cons_self
      · exact (ih later).imp_left (List.mem_cons_of_mem _)
  | standIn stands_in halves rest ih =>
      rcases List.mem_cons.mp member with rfl | later
      · exact .inr stands_in
      · exact (ih later).imp_left (List.mem_append_right _)

theorem head? (shows : Shows text shown) (is_head : shown.head? = some c) :
    text.head? = some (.char c) ∨ IsStandIn c := by
  cases shows with
  | nil => cases is_head
  | own own rest =>
      cases is_head
      exact .inl rfl
  | standIn stands_in halves rest =>
      cases is_head
      exact .inr stands_in

theorem getLast? (shows : Shows text shown) (is_last : shown.getLast? = some c) :
    text.getLast? = some (.char c) ∨ IsStandIn c := by
  induction shows with
  | nil => cases is_last
  | @own own text shown rest ih =>
      cases shown with
      | nil =>
          cases rest
          cases is_last
          exact .inl rfl
      | cons first others =>
          rw [List.getLast?_cons_cons] at is_last
          refine (ih is_last).imp_left fun below => ?_
          rw [List.getLast?_cons, below]
          rfl
  | @standIn own stands_in halves text shown rest ih =>
      cases shown with
      | nil =>
          cases is_last
          exact .inr stands_in
      | cons first others =>
          rw [List.getLast?_cons_cons] at is_last
          refine (ih is_last).imp_left fun below => ?_
          rw [List.getLast?_append, below]
          rfl

end Shows

variable {text : List CodePoint}

theorem ofString_shownString (text : List CodePoint) :
    ofString (shownString text) = points (shown text) := by
  rw [ofString, shownString, String.toList_ofList]

/-- A tidy text stays tidy when it is shown. -/
theorem IsTidy.shown (tidy : IsTidy text) : IsTidy (ofString (shownString text)) := by
  have shows := shows_shown text
  rw [ofString_shownString]
  refine ⟨?_, ?_, ?_⟩
  · intro nothing
    rw [List.map_eq_nil_iff.mp nothing] at shows
    cases shows
    exact tidy.ne_nil rfl
  · intro point is_head
    rw [points, List.head?_map, Option.map_eq_some_iff] at is_head
    obtain ⟨c, shown_head, rfl⟩ := is_head
    rcases shows.head? shown_head with own | stands_in
    · exact tidy.head _ own
    · exact Bool.not_eq_true _ ▸ not_isBlank_of_isStandIn stands_in
  · intro point is_last
    rw [points, List.getLast?_map, Option.map_eq_some_iff] at is_last
    obtain ⟨c, shown_last, rfl⟩ := is_last
    rcases shows.getLast? shown_last with own | stands_in
    · exact tidy.last _ own
    · exact Bool.not_eq_true _ ▸ not_isBlank_of_isStandIn stands_in

/-- A character that stands for no surrogate is shown only if it is there. -/
theorem mem_of_mem_shownString {c : Char} (own : ¬IsStandIn c)
    (member : .char c ∈ ofString (shownString text)) : .char c ∈ text := by
  rw [ofString_shownString, points, List.mem_map] at member
  obtain ⟨shown, shown_member, same⟩ := member
  cases same
  exact ((shows_shown text).mem shown_member).resolve_right own

end Shown

end BundleLint.Text
