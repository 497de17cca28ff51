import BundleLint.Text.Stream

/-!
# Decoding in pieces

Bytes that are UTF-8 are decoded in pieces without a failure: wherever they are cut, the decoder
goes on from the unfinished character to which it has come.
-/

namespace BundleLint.Text

namespace Utf8

/-- The unfinished character to which bytes lead, if none of them is refused. -/
def after (partway : Option Partway) : List UInt8 → Option (Option Partway)
  | [] => some partway
  | byte :: rest =>
    match step partway byte with
    | .complete _ => after none rest
    | .begun partway => after (some partway) rest
    | .refused _ => none

theorem after_append (partway : Option Partway) (front back : List UInt8) :
    after partway (front ++ back) = (after partway front).bind (after · back) := by
  induction front generalizing partway with
  | nil => rfl
  | cons byte front ih =>
      rw [List.cons_append, after, after]
      cases step partway byte with
      | complete c => exact ih none
      | begun partway => exact ih (some partway)
      | refused reason => rfl

/-- Where a decoder stands does not depend on what it has decoded. -/
theorem decodeFrom_toOption (position : Nat) (partway : Option Partway) (reversed : List Char)
    (bytes : List UInt8) :
    (decodeFrom position partway reversed bytes).2.toOption = after partway bytes := by
  induction bytes generalizing position partway reversed with
  | nil => rfl
  | cons byte bytes ih =>
      rw [decodeFrom, after]
      cases step partway byte with
      | complete c => exact ih ..
      | begun partway => exact ih ..
      | refused reason => rfl

/-- Bytes are decoded as a whole exactly if they lead back to no unfinished character. -/
theorem after_of_decode {bytes : List UInt8} {text : List Char}
    (decoded : decode bytes = .ok text) :
    after none bytes = some none := by
  rw [← decodeFrom_toOption 0 none [] bytes]
  unfold decode at decoded
  split at decoded
  · cases decoded
  · cases decoded
  · rename_i ended
    rw [ended]
    rfl

end Utf8

namespace Decoding

/-- A chunk of bytes that are UTF-8 is decoded, and so are the bytes after it. -/
theorem advance_of_after {decoding : Decoding} {wanted : Nat}
    (whole : Utf8.after decoding.partway decoding.bytes = some none) :
    ∃ next, decoding.advance wanted = .ok next ∧
      Utf8.after next.partway next.bytes = some none := by
  let chunk := decoding.bytes.take (decoding.nextChunkSize wanted)
  have parts : chunk ++ decoding.bytes.drop chunk.length = decoding.bytes :=
    List.prefix_iff_eq_append.mp (List.take_prefix ..)
  rw [← parts, Utf8.after_append] at whole
  obtain ⟨partway, chunk_after, rest_after⟩ := Option.bind_eq_some_iff.mp whole
  have decoded :=
    Utf8.decodeFrom_toOption (Utf8.heldBytes decoding.partway).length decoding.partway [] chunk
  rw [chunk_after] at decoded
  unfold advance
  dsimp only
  split
  · rename_i refused
    rw [refused] at decoded
    cases decoded
  · rename_i ended
    rw [ended] at decoded
    cases decoded
    exact ⟨_, rfl, rest_after⟩

/-- No piece of bytes that are UTF-8 fails. -/
theorem pieces_failure {steps piece : Nat} {decoding : Decoding}
    (whole : Utf8.after decoding.partway decoding.bytes = some none) :
    (pieces steps piece decoding).failure = none := by
  induction steps generalizing piece decoding with
  | zero => rfl
  | succ steps ih =>
      unfold pieces
      dsimp only
      split
      · exact ih whole
      · split
        · rename_i empty
          rw [List.isEmpty_iff.mp empty] at whole
          rw [Option.some.inj whole]
        · obtain ⟨next, next_eq, next_whole⟩ := advance_of_after whole
          rw [next_eq]
          exact ih next_whole

end Decoding

/-- Bytes that are UTF-8 are decoded in pieces without a failure. -/
theorem stream_failure {bytes : List UInt8} {text : List Char}
    (decoded : Utf8.decode bytes = .ok text) : (stream bytes).failure = none :=
  Decoding.pieces_failure (Utf8.after_of_decode decoded)

end BundleLint.Text
