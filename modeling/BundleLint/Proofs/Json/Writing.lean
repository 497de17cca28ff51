import BundleLint.Proofs.Json.Quoted
import Mathlib.Data.List.Forall2

/-!
# Documents are told apart by their text

The written form of a document shows where it ends, so a document can be told from any other one
even where more text follows. Arrays and objects of the same text therefore have items and members
of the same texts. Every character that is written is in the range of ASCII.
-/

namespace BundleLint.Json

/-- What can follow a part of an array or an object, or a whole document. -/
def Follows : List Char → Prop
  | [] => True
  | c :: _ => c = ',' ∨ c = '\n'

/-- Two texts that are the same if what follows them makes them look the same. -/
def Apart (first second : List Char) : Prop :=
  ∀ front back, Follows front → Follows back → first ++ front = second ++ back → front = back

theorem Apart.eq {first second front back : List Char} (apart : Apart first second)
    (follows_front : Follows front) (follows_back : Follows back)
    (same : first ++ front = second ++ back) : first = second ∧ front = back := by
  obtain rfl := apart front back follows_front follows_back same
  exact ⟨List.append_cancel_right same, rfl⟩

/-! ## Numbers -/

theorem not_isDigit_of_follows {c : Char} {text : List Char} (follows : Follows (c :: text)) :
    c.isDigit = false := by
  rcases follows with rfl | rfl
  · decide
  · decide

theorem takeWhile_digits {digits rest : List Char} (all_digits : ∀ c ∈ digits, c.isDigit = true)
    (follows : Follows rest) : (digits ++ rest).takeWhile Char.isDigit = digits := by
  rw [List.takeWhile_append_of_pos all_digits]
  cases rest with
  | nil => simp
  | cons c rest => simp [not_isDigit_of_follows follows]

theorem toDigits_apart (m n : Nat) : Apart (Nat.toDigits 10 m) (Nat.toDigits 10 n) := by
  intro front back follows_front follows_back same
  have all_digits (k : Nat) : ∀ c ∈ Nat.toDigits 10 k, c.isDigit = true := fun c member =>
    Nat.isDigit_of_mem_toDigits (by decide) (by decide) member
  have digits := congrArg (List.takeWhile Char.isDigit) same
  rw [takeWhile_digits (all_digits m) follows_front, takeWhile_digits (all_digits n) follows_back]
    at digits
  rw [digits] at same
  exact List.append_cancel_left same

theorem toDigits_inj {m n : Nat} (same : Nat.toDigits 10 m = Nat.toDigits 10 n) : m = n := by
  have read := congrArg (fun digits => Nat.ofDigitChars 10 digits 0) same
  simpa [Nat.ofDigitChars_toDigits] using read

/-! ## Parts between marks -/

/-- The text after the first part of an array or an object. -/
def others (closing : Char) (level : Nat) (parts : List (List Char)) : List Char :=
  parts.flatMap (fun part => ',' :: newLine (level + 1) ++ part) ++ newLine level ++ [closing]

theorem others_cons (closing : Char) (level : Nat) (part : List Char) (parts : List (List Char)) :
    others closing level (part :: parts) =
      ',' :: newLine (level + 1) ++ part ++ others closing level parts := by
  simp [others]

theorem intercalate_cons (separator part : List Char) (parts : List (List Char)) :
    separator.intercalate (part :: parts) = part ++ parts.flatMap (separator ++ ·) := by
  induction parts generalizing part with
  | nil => simp
  | cons next parts ih => simp [ih]

theorem enclosed_cons (opening closing : Char) (level : Nat) (part : List Char)
    (parts : List (List Char)) :
    enclosed opening closing level (part :: parts) =
      opening :: newLine (level + 1) ++ part ++ others closing level parts := by
  simp [enclosed, others, intercalate_cons]

theorem follows_others (closing : Char) (level : Nat) (parts : List (List Char))
    (rest : List Char) : Follows (others closing level parts ++ rest) := by
  cases parts with
  | nil => exact .inr rfl
  | cons part parts => exact .inl rfl

theorem others_append_inj {closing : Char} {level : Nat} {first second : List (List Char)}
    {front back : List Char} (apart : ∀ p ∈ first, ∀ q ∈ second, Apart p q)
    (same : others closing level first ++ front = others closing level second ++ back) :
    first = second ∧ front = back := by
  induction first generalizing second with
  | nil =>
      cases second with
      | nil => exact ⟨rfl, List.append_cancel_left same⟩
      | cons q second => cases same
  | cons p first ih =>
      cases second with
      | nil => cases same
      | cons q second =>
          simp only [others_cons, List.append_assoc] at same
          obtain ⟨rfl, rests⟩ := (apart p (by simp) q (by simp)).eq (follows_others ..)
            (follows_others ..) (List.append_cancel_left same)
          obtain ⟨rfl, ends⟩ :=
            ih (fun p here q there => apart p (by simp [here]) q (by simp [there])) rests
          exact ⟨rfl, ends⟩

/-- Parts that are told apart one by one are told apart between their marks. -/
theorem enclosed_append_inj {opening closing : Char} {level : Nat} {first second : List (List Char)}
    {front back : List Char} (marks : closing ≠ '\n') (apart : ∀ p ∈ first, ∀ q ∈ second, Apart p q)
    (same : enclosed opening closing level first ++ front =
      enclosed opening closing level second ++ back) :
    first = second ∧ front = back := by
  cases first with
  | nil =>
      cases second with
      | nil => exact ⟨rfl, List.append_cancel_left same⟩
      | cons q second =>
          rw [enclosed_cons] at same
          simp [enclosed, newLine, marks] at same
  | cons p first =>
      cases second with
      | nil =>
          rw [enclosed_cons] at same
          simp [enclosed, newLine, marks.symm] at same
      | cons q second =>
          simp only [enclosed_cons, List.append_assoc] at same
          obtain ⟨rfl, rests⟩ := (apart p (by simp) q (by simp)).eq (follows_others ..)
            (follows_others ..) (List.append_cancel_left same)
          obtain ⟨rfl, ends⟩ := others_append_inj
            (fun p here q there => apart p (by simp [here]) q (by simp [there])) rests
          exact ⟨rfl, ends⟩

/-! ## Documents -/

theorem writeItems_eq (level : Nat) (items : List Json) :
    writeItems level items = items.map (write level) := by
  induction items with
  | nil => rfl
  | cons item items ih => simp [writeItems, ih]

/-- A member as it is written. -/
def writtenMember (level : Nat) (member : String × Json) : List Char :=
  quoted member.1 ++ ':' :: ' ' :: write level member.2

theorem writeMembers_eq (level : Nat) (members : List (String × Json)) :
    writeMembers level members = members.map (writtenMember level) := by
  induction members with
  | nil => rfl
  | cons member members ih => simp [writeMembers, writtenMember, ih]

/-- What a document is, without what is in it. -/
inductive Kind where
  | null
  | truth
  | number
  | text
  | array
  | object
  deriving DecidableEq

/-- The kind of a document. -/
def kind : Json → Kind
  | .null => .null
  | .bool _ => .truth
  | .number _ => .number
  | .text _ => .text
  | .array _ => .array
  | .object _ => .object

/-- The kind of the documents that begin with a character. -/
def Kind.ofFirst (c : Char) : Kind :=
  if c.isDigit then .number
  else if c == '\x22' then .text
  else if c == '[' then .array
  else if c == '\x7b' then .object
  else if c == 'n' then .null
  else .truth

theorem write_begins (level : Nat) (json : Json) :
    ∃ c rest, write level json = c :: rest ∧ Kind.ofFirst c = json.kind := by
  have encloses (opening closing : Char) (parts : List (List Char)) :
      ∃ rest, enclosed opening closing level parts = opening :: rest := by
    cases parts with
    | nil => exact ⟨_, rfl⟩
    | cons part parts => exact ⟨_, enclosed_cons ..⟩
  cases json with
  | null => exact ⟨_, _, rfl, rfl⟩
  | bool b => cases b <;> exact ⟨_, _, rfl, rfl⟩
  | number n =>
      have digits_ne := Nat.toDigits_ne_nil (n := n) (b := 10)
      obtain ⟨c, rest, digits⟩ := List.exists_cons_of_ne_nil digits_ne
      have digit := Nat.isDigit_of_mem_toDigits (b := 10) (n := n) (c := c) (by decide) (by decide)
        (by simp [digits])
      exact ⟨c, rest, digits, if_pos digit⟩
  | text s => exact ⟨_, _, rfl, rfl⟩
  | array items =>
      obtain ⟨rest, written⟩ := encloses '[' ']' (writeItems (level + 1) items)
      exact ⟨_, rest, written, rfl⟩
  | object members =>
      obtain ⟨rest, written⟩ := encloses '\x7b' '\x7d' (writeMembers (level + 1) members)
      exact ⟨_, rest, written, rfl⟩

theorem kind_eq_of_append {level : Nat} {first second : Json} {front back : List Char}
    (same : write level first ++ front = write level second ++ back) :
    first.kind = second.kind := by
  obtain ⟨c, rest, written, kind_eq⟩ := write_begins level first
  obtain ⟨d, others, written', kind_eq'⟩ := write_begins level second
  rw [written, written'] at same
  obtain ⟨rfl, -⟩ := List.cons.inj same
  exact kind_eq.symm.trans kind_eq'

theorem writtenMember_apart {level : Nat} {first second : String × Json}
    (apart : Apart (write level first.2) (write level second.2)) :
    Apart (writtenMember level first) (writtenMember level second) := by
  intro front back follows_front follows_back same
  simp only [writtenMember, List.append_assoc] at same
  obtain ⟨-, rests⟩ := quoted_append_inj same
  exact apart front back follows_front follows_back (by simpa using rests)

/-- The documents of which a document is made. -/
def parts : Json → List Json
  | .array items => items
  | .object members => members.map (·.2)
  | _ => []

theorem sizeOf_part_lt {json part : Json} (member : part ∈ json.parts) :
    sizeOf part < sizeOf json := by
  cases json with
  | array items =>
      have smaller := List.sizeOf_lt_of_mem (show part ∈ items from member)
      simp only [array.sizeOf_spec]
      omega
  | object members =>
      obtain ⟨⟨name, value⟩, found, rfl⟩ := List.mem_map.mp member
      have smaller := List.sizeOf_lt_of_mem found
      simp only [Prod.mk.sizeOf_spec] at smaller
      simp only [object.sizeOf_spec]
      omega
  | _ => cases member

/-- What a document has whenever its parts have it, every document has. -/
theorem of_parts {motive : Json → Prop}
    (step : ∀ json, (∀ part ∈ json.parts, motive part) → motive json) (json : Json) :
    motive json :=
  step json fun part member =>
    have := sizeOf_part_lt member
    of_parts step part
termination_by json

/-- Documents are told apart where they end. -/
theorem write_apart (first second : Json) (level : Nat) :
    Apart (write level first) (write level second) := by
  -- The first characters fix the kind of both documents, so unlike kinds never meet below.
  induction first using of_parts generalizing second level with
  | step first ih =>
      intro front back follows_front follows_back same
      have kinds := kind_eq_of_append same
      cases first with
      | null =>
          cases second with
          | null => exact List.append_cancel_left same
          | _ => cases kinds
      | bool b =>
          cases second with
          | bool d =>
              cases b <;> cases d
              · exact List.append_cancel_left same
              · cases same
              · cases same
              · exact List.append_cancel_left same
          | _ => cases kinds
      | number m =>
          cases second with
          | number n => exact toDigits_apart m n front back follows_front follows_back same
          | _ => cases kinds
      | text s =>
          cases second with
          | text t => exact (quoted_append_inj same).2
          | _ => cases kinds
      | array items =>
          cases second with
          | array found =>
              simp only [write, writeItems_eq] at same
              refine (enclosed_append_inj (by decide) ?_ same).2
              simp only [List.forall_mem_map]
              intro item member other _
              exact ih item member other (level + 1)
          | _ => cases kinds
      | object members =>
          cases second with
          | object found =>
              simp only [write, writeMembers_eq] at same
              refine (enclosed_append_inj (by decide) ?_ same).2
              simp only [List.forall_mem_map]
              intro item member other _
              exact writtenMember_apart
                (ih item.2 (List.mem_map_of_mem member) other.2 (level + 1))
          | _ => cases kinds

theorem write_array_inj {level : Nat} {first second : List Json}
    (same : write level (.array first) = write level (.array second)) :
    first.map (write (level + 1)) = second.map (write (level + 1)) := by
  simp only [write, writeItems_eq] at same
  refine (enclosed_append_inj (by decide) ?_ (congrArg (· ++ []) same)).1
  simp only [List.forall_mem_map]
  exact fun item _ other _ => write_apart item other (level + 1)

theorem write_object_inj {level : Nat} {first second : List (String × Json)}
    (same : write level (.object first) = write level (.object second)) :
    first.map (writtenMember (level + 1)) = second.map (writtenMember (level + 1)) := by
  simp only [write, writeMembers_eq] at same
  refine (enclosed_append_inj (by decide) ?_ (congrArg (· ++ []) same)).1
  simp only [List.forall_mem_map]
  exact fun item _ other _ => writtenMember_apart (write_apart item.2 other.2 (level + 1))

/-! ## What a document tells -/

/-- Documents made of values tell something about these: where they are written alike, the values
are related. -/
def Tells {α : Type} (make : α → Json) (related : α → α → Prop) : Prop :=
  ∀ level first second, write level (make first) = write level (make second) →
    related first second

theorem text_tells : Tells text fun first second => Text.units first = Text.units second := by
  intro level first second same
  exact (quoted_append_inj (congrArg (· ++ []) same)).1

theorem string_tells : Tells string Eq := by
  intro level first second same
  exact Text.units_ofString_inj (text_tells level _ _ same)

theorem number_tells : Tells number Eq := fun _ _ _ same => toDigits_inj same

/-- An absent value is told from every present one. -/
theorem ofOption_tells {α : Type} {make : α → Json} {related : α → α → Prop}
    (present : ∀ value, (make value).kind ≠ .null) (tells : Tells make related) :
    Tells (ofOption make) (Option.Rel related) := by
  intro level first second same
  have kinds := kind_eq_of_append (congrArg (· ++ []) same)
  cases first with
  | none =>
      cases second with
      | none => exact .none
      | some value => exact absurd kinds.symm (present value)
  | some value =>
      cases second with
      | none => exact absurd kinds (present value)
      | some other => exact .some (tells level value other same)

theorem array_tells {α : Type} {make : α → Json} {related : α → α → Prop}
    (tells : Tells make related) :
    Tells (fun values : List α => array (values.map make)) (List.Forall₂ related) := by
  intro level first second same
  have written := write_array_inj same
  rw [List.map_map, List.map_map, ← List.forall₂_eq_eq_eq, List.forall₂_map_left_iff,
    List.forall₂_map_right_iff] at written
  exact written.imp fun {value other} same => tells (level + 1) value other same

/-- Members of the same names that are written alike have values that are written alike. -/
theorem writtenMember_inj {level : Nat} {name : String} {first second : Json} :
    writtenMember level (name, first) = writtenMember level (name, second) ↔
      write level first = write level second := by
  simp [writtenMember]

/-! ## The characters that are written -/

/-- Text in the range of ASCII. -/
def IsAscii (text : List Char) : Prop :=
  ∀ c ∈ text, c.toNat < 128

@[simp]
theorem isAscii_nil : IsAscii [] := by simp [IsAscii]

@[simp]
theorem isAscii_cons {c : Char} {text : List Char} :
    IsAscii (c :: text) ↔ c.toNat < 128 ∧ IsAscii text := by
  simp [IsAscii]

@[simp]
theorem isAscii_append {front back : List Char} :
    IsAscii (front ++ back) ↔ IsAscii front ∧ IsAscii back := by
  simp only [IsAscii, List.mem_append, or_imp, forall_and]

theorem isAscii_flatMap {α : Type} {values : List α} {shown : α → List Char}
    (each : ∀ value ∈ values, IsAscii (shown value)) : IsAscii (values.flatMap shown) := by
  intro c member
  obtain ⟨value, found, here⟩ := List.mem_flatMap.mp member
  exact each value found c here

theorem isAscii_replicate {c : Char} (count : Nat) (small : c.toNat < 128) :
    IsAscii (List.replicate count c) := by
  intro d member
  rw [List.eq_of_mem_replicate member]
  exact small

theorem isAscii_toDigits {base : Nat} (least : 1 < base) (greatest : base ≤ 16) (n : Nat) :
    IsAscii (Nat.toDigits base n) := by
  have digit_small : ∀ digit < 16, digit.digitChar.toNat < 128 := by decide
  induction n using Nat.strongRecOn with
  | ind n ih =>
      by_cases small : n < base
      · rw [Nat.toDigits_of_lt_base small]
        simpa using digit_small n (by omega)
      · have rest_small := ih (n / base) (Nat.div_lt_self (by omega) least)
        have last_small := Nat.mod_lt n (show base > 0 by omega)
        rw [Nat.toDigits_of_base_le least (by omega)]
        simpa using ⟨rest_small, digit_small _ (by omega)⟩

theorem isAscii_unitEscape (unit : Nat) : IsAscii (unitEscape unit) := by
  have digits := isAscii_toDigits (show 1 < 16 by decide) (Nat.le_refl 16) unit
  have zeros :=
    isAscii_replicate (4 - (Nat.toDigits 16 unit).length) (show '0'.toNat < 128 by decide)
  simp [unitEscape, Text.hex, Text.padded, digits, zeros]

theorem isAscii_escapedChar (c : Char) : IsAscii (escapedChar c) := by
  unfold escapedChar
  simp only [beq_iff_eq, Bool.or_eq_true, Bool.and_eq_true, decide_eq_true_eq]
  split
  · rename_i marked
    rcases marked with rfl | rfl <;> simp
  split
  · simp
    omega
  repeat' split
  all_goals simp [isAscii_unitEscape]

theorem isAscii_quoted (text : List CodePoint) : IsAscii (quoted text) := by
  have each : ∀ point ∈ text, IsAscii (escapedPoint point) := by
    intro point _
    cases point with
    | char c => exact isAscii_escapedChar c
    | surrogate index => exact isAscii_unitEscape _
  simp [quoted, isAscii_flatMap each]

theorem isAscii_newLine (level : Nat) : IsAscii (newLine level) := by
  simp [newLine, isAscii_replicate]

theorem isAscii_enclosed {opening closing : Char} {level : Nat} {parts : List (List Char)}
    (marks : opening.toNat < 128 ∧ closing.toNat < 128) (each : ∀ part ∈ parts, IsAscii part) :
    IsAscii (enclosed opening closing level parts) := by
  cases parts with
  | nil => simp [enclosed, marks]
  | cons part parts =>
      have later : IsAscii (parts.flatMap fun part => ',' :: (newLine (level + 1) ++ part)) :=
        isAscii_flatMap fun found member => by
          simpa [isAscii_newLine] using each found (List.mem_cons_of_mem part member)
      simp [enclosed_cons, others, marks, isAscii_newLine, each part, later]

/-- Every character of a document is written in the range of ASCII. -/
theorem isAscii_write (json : Json) (level : Nat) : IsAscii (write level json) := by
  induction json using of_parts generalizing level with
  | step json ih =>
      cases json with
      | null => simp [write]
      | bool b => cases b <;> simp [write]
      | number n => exact isAscii_toDigits (by decide) (by decide) n
      | text s => exact isAscii_quoted s
      | array items =>
          refine isAscii_enclosed (by decide) ?_
          simp only [writeItems_eq, List.forall_mem_map]
          exact fun item member => ih item member (level + 1)
      | object members =>
          refine isAscii_enclosed (by decide) ?_
          simp only [writeMembers_eq, List.forall_mem_map]
          intro member found
          simp [writtenMember, isAscii_quoted, ih member.2 (List.mem_map_of_mem found) (level + 1)]

end BundleLint.Json
