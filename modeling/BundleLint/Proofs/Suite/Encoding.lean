import BundleLint.Proofs.FrontMatter.Partition
import BundleLint.Proofs.Suite.Escape
import BundleLint.Proofs.Text.Utf8

/-!
# Encodings of a text

A text can be written with a byte-order mark or without one, and with one of three line ends. None
of this is left when its front matter is split, so that all these files have the same runs.
-/

namespace BundleLint

namespace Text

/-- The ways to write a line feed in a file. -/
def lineEnds : List (List Char) := [['\n'], ['\r', '\n'], ['\r']]

/-- A text with its line feeds written in one way. -/
def writeLineFeeds (lineEnd text : List Char) : List Char :=
  text.flatMap fun c => if c = '\n' then lineEnd else [c]

variable {lineEnd text rest : List Char}

theorem unifyLineFeeds_cons {c : Char} (whole : c = '\r' → rest.head? ≠ some '\n') :
    unifyLineFeeds (c :: rest) = (if c = '\r' then '\n' else c) :: unifyLineFeeds rest := by
  conv_lhs => unfold unifyLineFeeds
  split
  · rename_i empty
    cases empty
  · rename_i halves
    cases halves
    exact absurd rfl (whole rfl)
  · rename_i parts
    cases parts
    simp

/-- A line end is read as one line feed, unless it is half of another line end. -/
theorem unifyLineFeeds_lineEnd (member : lineEnd ∈ lineEnds)
    (whole : lineEnd = ['\r'] → rest.head? ≠ some '\n') :
    unifyLineFeeds (lineEnd ++ rest) = '\n' :: unifyLineFeeds rest := by
  simp only [lineEnds, List.mem_cons, List.not_mem_nil, or_false] at member
  rcases member with rfl | rfl | rfl
  · exact unifyLineFeeds_cons (by simp)
  · rfl
  · exact unifyLineFeeds_cons fun _ => whole rfl

/-- Without line feeds there is no half of a line end to meet a carriage return. -/
theorem head?_writeLineFeeds_return : (writeLineFeeds ['\r'] text).head? ≠ some '\n' := by
  cases text with
  | nil => simp [writeLineFeeds]
  | cons c text =>
      by_cases feed : c = '\n'
      · simp [writeLineFeeds, feed]
      · simp [writeLineFeeds, feed]

/-- A text is read as it was before its line feeds were written. -/
theorem unifyLineFeeds_writeLineFeeds (member : lineEnd ∈ lineEnds) (no_return : '\r' ∉ text) :
    unifyLineFeeds (writeLineFeeds lineEnd text) = text := by
  induction text with
  | nil => rfl
  | cons c text ih =>
      rw [List.mem_cons, not_or] at no_return
      have later := ih no_return.2
      rw [writeLineFeeds, List.flatMap_cons, ← writeLineFeeds]
      by_cases feed : c = '\n'
      · rw [if_pos feed, unifyLineFeeds_lineEnd member, later, feed]
        rintro rfl
        exact head?_writeLineFeeds_return
      · have inner : c ≠ '\r' := Ne.symm no_return.1
        rw [if_neg feed, List.singleton_append, unifyLineFeeds_cons fun c_eq => absurd c_eq inner,
          later, if_neg inner]

/-- Bytes that write a text, with a byte-order mark or without one. -/
inductive Writes (text : List Char) : List UInt8 → Prop
  | plain (lineEnd : List Char) (member : lineEnd ∈ lineEnds) :
      Writes text (Utf8.encode (writeLineFeeds lineEnd text))
  | marked (lineEnd : List Char) (member : lineEnd ∈ lineEnds) :
      Writes text (Utf8.encode ('\ufeff' :: writeLineFeeds lineEnd text))

/-- Bytes that write a text are read as the text, but for the byte-order mark. -/
theorem Writes.decode {bytes : List UInt8} (writes : Writes text bytes) (no_return : '\r' ∉ text) :
    ∃ content, Utf8.decode bytes = .ok content ∧
      (unifyLineFeeds content = text ∨ unifyLineFeeds content = '\ufeff' :: text) := by
  cases writes with
  | plain lineEnd member =>
      exact ⟨_, Utf8.decode_encode _, .inl (unifyLineFeeds_writeLineFeeds member no_return)⟩
  | marked lineEnd member =>
      refine ⟨_, Utf8.decode_encode _, .inr ?_⟩
      rw [unifyLineFeeds_cons (by simp), unifyLineFeeds_writeLineFeeds member no_return]
      rfl

end Text

namespace FrontMatter

/-- A byte-order mark does not change what a text is split into. -/
theorem split_of_marked {text : List Char} (unmarked : text.head? ≠ some '\ufeff') :
    split ('\ufeff' :: text) = split text := by
  have dropped : dropMark ('\ufeff' :: text) = dropMark text := by
    rw [dropMark_eq, dropMark_eq, if_neg unmarked]
    rfl
  have layout_eq : layout ('\ufeff' :: text) = layout text := by
    unfold layout
    rw [dropped]
  unfold split
  rw [layout_eq]

end FrontMatter

open Text (Writes)

/-- Opening a file that writes a text gives a text that is split in the same way. -/
theorem openText_of_writes {text : List Char} {bytes : List UInt8} {files : Files} {path : Path}
    (no_return : '\r' ∉ text) (unmarked : text.head? ≠ some '\ufeff') (writes : Writes text bytes)
    (held : files path = .file bytes) :
    ∃ content, openText files path = .text content ∧
      (content = text ∨ content = '\ufeff' :: text) ∧
      FrontMatter.split content = FrontMatter.split text := by
  obtain ⟨decoded, decoded_eq, whole⟩ := writes.decode no_return
  refine ⟨Text.unifyLineFeeds decoded, ?_, whole, ?_⟩
  · simp only [openText, held, Status.content?, decoded_eq]
  · rcases whole with same | marked
    · rw [same]
    · rw [marked, FrontMatter.split_of_marked unmarked]

namespace Suite

/-- Texts that are split in the same way have the same runs. -/
theorem run_of_split_eq {files others : Files} {path : Path} {content other : List Char}
    (opened : openText files path = .text content)
    (other_opened : openText others path = .text other)
    (same : FrontMatter.split content = FrontMatter.split other) (suite : Suite)
    (mode : CheckMode) : suite.run files mode path = suite.run others mode path := by
  unfold run
  rw [opened, other_opened]
  dsimp only
  rw [same]

/-- The six ways to write a text make no difference. The text is read from the bytes, but for a
byte-order mark, and the runs of any suite on any two such files give the same report or break off
with the same fault. -/
theorem run_ignores_encoding {text : List Char} (no_return : '\r' ∉ text)
    (unmarked : text.head? ≠ some '\ufeff') (files others : Files) (path : Path)
    (bytes otherBytes : List UInt8) (writes : Writes text bytes)
    (other_writes : Writes text otherBytes) (held : files path = .file bytes)
    (other_held : others path = .file otherBytes) :
    (openText files path = .text text ∨ openText files path = .text ('\ufeff' :: text)) ∧
      ∀ (suite : Suite) (mode : CheckMode),
        suite.run files mode path = suite.run others mode path := by
  obtain ⟨content, opened, whole, split_eq⟩ :=
    openText_of_writes no_return unmarked writes held
  obtain ⟨other, other_opened, -, other_split_eq⟩ :=
    openText_of_writes no_return unmarked other_writes other_held
  constructor
  · rcases whole with rfl | rfl
    · exact .inl opened
    · exact .inr opened
  · exact run_of_split_eq opened other_opened (split_eq.trans other_split_eq.symm)

theorem run_ignores_encoding_marked :
    '\r' ∉ unclosedText.toList ∧ unclosedText.toList.head? ≠ some '\ufeff' ∧
      (standard []).run (fun _ => .file "\ufeff---\r\na: [\r\n---\r\n".toUTF8.toList) .fast
          ⟨0, ["b.md"]⟩ =
        (standard []).run (fun _ => .file "---\ra: [\r---\r".toUTF8.toList) .fast ⟨0, ["b.md"]⟩ ∧
      ((standard []).run (fun _ => .file "---\ra: [\r---\r".toUTF8.toList) .fast
        ⟨0, ["b.md"]⟩).toOption.map (·.issues.map (·.line)) = some [some 3] := by
  have no_return : '\r' ∉ unclosedText.toList := by decide
  have unmarked : unclosedText.toList.head? ≠ some '\ufeff' := by decide
  have writes : Writes unclosedText.toList "\ufeff---\r\na: [\r\n---\r\n".toUTF8.toList := by
    have bytes_eq : "\ufeff---\r\na: [\r\n---\r\n".toUTF8.toList =
        Text.Utf8.encode ('\ufeff' :: Text.writeLineFeeds ['\r', '\n'] unclosedText.toList) := by
      decide +kernel
    rw [bytes_eq]
    exact .marked _ (by decide)
  have other_writes : Writes unclosedText.toList "---\ra: [\r---\r".toUTF8.toList := by
    have bytes_eq : "---\ra: [\r---\r".toUTF8.toList =
        Text.Utf8.encode (Text.writeLineFeeds ['\r'] unclosedText.toList) := by
      decide +kernel
    rw [bytes_eq]
    exact .plain _ (by decide)
  obtain ⟨-, same⟩ :=
    run_ignores_encoding no_return unmarked (fun _ => .file _) (fun _ => .file _) ⟨0, ["b.md"]⟩
      _ _ writes other_writes rfl rfl
  exact ⟨no_return, unmarked, same (standard []) .fast, by decide +kernel⟩

end Suite

end BundleLint
