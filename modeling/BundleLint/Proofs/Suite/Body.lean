import BundleLint.Proofs.Check.Fault
import BundleLint.Proofs.Suite.Encoding

/-!
# Bodies of bundles

Making the line feeds of a file the same leaves its lines where they are, so a front matter ends at
the same line before and after. What stands behind this line is the body. No built-in check reads
it, so that files which differ in nothing else have the same runs.
-/

namespace BundleLint

/-! ## Lines of a text as it is read -/

namespace Text

variable {text : List Char}

theorem unifyLineFeeds_inner {c : Char} (inner : c ≠ '\r') (rest : List Char) :
    unifyLineFeeds (c :: rest) = c :: unifyLineFeeds rest := by
  rw [unifyLineFeeds_cons fun same => absurd same inner, if_neg inner]

/-- Each line of a text is read as one line. -/
theorem lines_unifyLineFeeds (text : List Char) :
    lines (unifyLineFeeds text) = (lines text).map unifyLineFeeds := by
  fun_induction lines text with
  | case1 => rfl
  | case2 rest ih =>
      rw [unifyLineFeeds, lines_cons_end _ rfl (by simp), ih]
      rfl
  | case3 c rest whole ends ih =>
      by_cases is_return : c = '\r'
      · subst is_return
        rw [unifyLineFeeds_cons (head?_ne_of_whole whole), List.map_cons, ← ih]
        exact lines_cons_end _ rfl (by simp)
      · rw [unifyLineFeeds_inner is_return,
          lines_cons_end _ ends fun same => absurd same is_return, List.map_cons,
          unifyLineFeeds_inner is_return, ih]
        rfl
  | case4 c rest whole inner empty ih =>
      obtain rfl : rest = [] := by simpa using empty
      have not_return : c ≠ '\r' := by
        rintro rfl
        exact inner rfl
      rw [unifyLineFeeds_inner not_return, List.map_singleton, unifyLineFeeds_inner not_return]
      exact lines_cons_inner [] inner
  | case5 c rest whole inner line others lines_eq ih =>
      have not_return : c ≠ '\r' := by
        rintro rfl
        exact inner rfl
      rw [unifyLineFeeds_inner not_return, lines_cons_inner _ inner, ih, lines_eq, List.map_cons,
        List.map_cons, unifyLineFeeds_inner not_return]
      rfl

/-- Reading line ends makes no character blank that is not, nor the other way round. -/
theorem isBlank_unifyLineFeeds :
    (∀ c ∈ unifyLineFeeds text, isBlank c) ↔ ∀ c ∈ text, isBlank c := by
  fun_induction unifyLineFeeds text with
  | case1 => rfl
  | case2 rest ih =>
      have feed_blank : isBlank '\n' = true := rfl
      have return_blank : isBlank '\r' = true := rfl
      simp only [List.forall_mem_cons, ih, feed_blank, return_blank, true_and]
  | case3 c rest whole ih =>
      rw [List.forall_mem_cons, List.forall_mem_cons, ih]
      by_cases is_return : c = '\r'
      · subst is_return
        exact Iff.rfl
      · simp [is_return]

theorem eq_cons_of_unifyLineFeeds {c : Char} {rest : List Char} (inner : c ≠ '\n')
    (read : unifyLineFeeds text = c :: rest) :
    ∃ own, text = c :: own ∧ unifyLineFeeds own = rest := by
  fun_cases unifyLineFeeds text with
  | case1 => cases read
  | case2 own =>
      rw [unifyLineFeeds] at read
      exact absurd (List.cons.inj read).1.symm inner
  | case3 first own whole =>
      rw [unifyLineFeeds_cons (head?_ne_of_whole whole)] at read
      obtain ⟨first_eq, own_eq⟩ := List.cons.inj read
      by_cases is_return : first = '\r'
      · rw [if_pos is_return] at first_eq
        exact absurd first_eq.symm inner
      · rw [if_neg is_return] at first_eq
        exact ⟨own, by rw [first_eq], own_eq⟩

end Text

namespace FrontMatter

open Text (lines isBlank unifyLineFeeds)

variable {text line front opening content closing body : List Char}

/-- Reading line ends turns delimiters and no other lines into delimiters. -/
theorem delimits_unifyLineFeeds : Delimits (unifyLineFeeds line) ↔ Delimits line := by
  constructor
  · rintro ⟨blanks, read, blank⟩
    obtain ⟨first, line_eq, first_read⟩ := Text.eq_cons_of_unifyLineFeeds (by decide) read
    obtain ⟨second, first_eq, second_read⟩ :=
      Text.eq_cons_of_unifyLineFeeds (by decide) first_read
    obtain ⟨own, second_eq, rfl⟩ := Text.eq_cons_of_unifyLineFeeds (by decide) second_read
    rw [line_eq, first_eq, second_eq]
    exact ⟨own, rfl, Text.isBlank_unifyLineFeeds.mp blank⟩
  · rintro ⟨blanks, rfl, blank⟩
    refine ⟨unifyLineFeeds blanks, ?_, Text.isBlank_unifyLineFeeds.mpr blank⟩
    simp [Text.unifyLineFeeds_inner]

/-- A text that is cut at its delimiters is still cut there when it is read. -/
theorem IsCut.unifyLineFeeds (cut : IsCut text opening content closing body) :
    IsCut (unifyLineFeeds text) (unifyLineFeeds opening) (unifyLineFeeds content)
      (unifyLineFeeds closing) (unifyLineFeeds body) where
  lines_eq := by simp [Text.lines_unifyLineFeeds, cut.lines_eq]
  opening_delimits := delimits_unifyLineFeeds.mpr cut.opening_delimits
  closing_delimits := delimits_unifyLineFeeds.mpr cut.closing_delimits
  content_plain := by
    intro line member
    rw [Text.lines_unifyLineFeeds] at member
    obtain ⟨own, own_member, rfl⟩ := List.mem_map.mp member
    exact mt delimits_unifyLineFeeds.mp (cut.content_plain own own_member)

theorem dropMark_of_head? (unmarked : text.head? ≠ some '\ufeff') : dropMark text = text := by
  rw [dropMark_eq, if_neg unmarked]

theorem dropMark_unifyLineFeeds (text : List Char) :
    dropMark (unifyLineFeeds text) = unifyLineFeeds (dropMark text) := by
  by_cases marked : text.head? = some '\ufeff'
  · obtain ⟨rest, rfl⟩ := List.head?_eq_some_iff.mp marked
    rw [Text.unifyLineFeeds_inner (by decide)]
    rfl
  · rw [dropMark_of_head? marked, dropMark_of_head?]
    intro read_marked
    obtain ⟨rest, read⟩ := List.head?_eq_some_iff.mp read_marked
    obtain ⟨own, rfl, -⟩ := Text.eq_cons_of_unifyLineFeeds (by decide) read
    exact marked rfl

theorem dropMark_append (front_ne : front ≠ []) (body : List Char) :
    dropMark (front ++ body) = dropMark front ++ body := by
  obtain ⟨c, rest, rfl⟩ := List.exists_cons_of_ne_nil front_ne
  by_cases is_mark : c = '\ufeff'
  · simp [dropMark_eq, is_mark]
  · simp [dropMark_eq, is_mark]

/-! ## What stands behind a front matter -/

/-- A text that ends where its front matter ends: its first line and its last line delimit, no line
between them does, and the last one ends with a line feed. -/
structure IsFront (text opening content closing : List Char) : Prop where
  /-- Nothing stands behind the second delimiter. -/
  cut : IsCut (dropMark text) opening content closing []
  /-- The second delimiter ends with a line feed. -/
  ends : text.getLast? = some '\n'

/-- A file that begins with a front matter is cut behind it, whatever follows. -/
theorem IsFront.cut_append (is_front : IsFront front opening content closing) (body : List Char) :
    IsCut (dropMark (front ++ body)) opening content closing body := by
  have front_ne : front ≠ [] := by
    rintro rfl
    cases is_front.ends
  have last_eq : ∀ c, (dropMark front).getLast? = some c → c = '\n' := by
    intro c c_eq
    rw [dropMark_eq] at c_eq
    split at c_eq
    · rw [List.getLast?_tail, is_front.ends] at c_eq
      split at c_eq
      · cases c_eq
      · exact (Option.some.inj c_eq).symm
    · exact (Option.some.inj (is_front.ends.symm.trans c_eq)).symm
  rw [dropMark_append front_ne]
  refine
    { is_front.cut with
      lines_eq := ?_ }
  rw [Text.lines_append, is_front.cut.lines_eq]
  · simp
  · intro c c_eq
    rw [last_eq c c_eq]
    rfl
  · intro c_eq
    cases last_eq _ c_eq

/-- Such a file gives what its front matter reads as, and the rest is its body. -/
theorem IsFront.split_eq (is_front : IsFront front opening content closing) (body : List Char) :
    split (unifyLineFeeds (front ++ body)) =
      (settings (unifyLineFeeds content)).map fun config =>
        { config, body := unifyLineFeeds body } := by
  apply split_of_isCut
  rw [dropMark_unifyLineFeeds]
  exact (is_front.cut_append body).unifyLineFeeds

end FrontMatter

/-! ## Runs of the built-in checks -/

/-- No check reads the body. -/
theorem BuiltInCheck.block_of_body (check : BuiltInCheck) (config : Mapping) (path : Path)
    (body other : List Char) :
    check.named.block { config, body, path } =
      check.named.block { config, body := other, path } := by
  cases check with
  | frontMatterSyntax => rfl
  | requiredFields => rfl
  | moduleLists => rfl

namespace Suite

open FrontMatter (IsFront Parts)
open Text (unifyLineFeeds)
open Text.Utf8 (encode)

theorem standard_survey_of_body (skipped : List String) (mode : CheckMode) (config : Mapping)
    (path : Path) (body other : List Char) :
    (standard skipped).survey mode { config, body, path } =
      (standard skipped).survey mode { config, body := other, path } := by
  rw [survey, survey, standard_checks_skipping]
  simp only [List.flatMap_map, BuiltInCheck.block_of_body _ config path body other]

/-- Files that split alike but for their bodies have the same runs. -/
theorem standard_run_of_bodies {files others : Files} {path : Path} {text other : List Char}
    {read : Except FrontMatter.Failure Mapping} {body otherBody : List Char}
    (opened : openText files path = .text text)
    (other_opened : openText others path = .text other)
    (split_eq : FrontMatter.split text = read.map fun config => { config, body })
    (other_split_eq :
      FrontMatter.split other = read.map fun config => { config, body := otherBody })
    (skipped : List String) (mode : CheckMode) :
    (standard skipped).run files mode path = (standard skipped).run others mode path := by
  cases read with
  | error failure =>
      have same := split_eq.trans other_split_eq.symm
      exact run_of_split_eq opened other_opened same (standard skipped) mode
  | ok config =>
      rw [run_standard opened split_eq, run_standard other_opened other_split_eq,
        standard_survey_of_body]

/-- The body can neither cause nor hide an issue. All files that begin with the same front matter
have the same block read and keep what follows as their body; and whatever follows, the built-in
checks, whichever of them are skipped, give the same report, or the reader breaks off with the same
fault. -/
theorem run_ignores_body {front opening content closing : List Char}
    (is_front : IsFront front opening content closing) :
    (∀ body : List Char,
      FrontMatter.split (unifyLineFeeds (front ++ body)) =
        (FrontMatter.settings (unifyLineFeeds content)).map fun config =>
          { config, body := unifyLineFeeds body }) ∧
    ∀ (files others : Files) (path : Path) (body other : List Char),
      files path = .file (encode (front ++ body)) →
        others path = .file (encode (front ++ other)) →
          ∀ (skipped : List String) (mode : CheckMode),
            (standard skipped).run files mode path =
              (standard skipped).run others mode path := by
  refine ⟨is_front.split_eq, ?_⟩
  intro files others path body other held other_held skipped mode
  have opened : openText files path = .text (unifyLineFeeds (front ++ body)) := by
    simp only [openText, held, Status.content?, Text.Utf8.decode_encode]
  have other_opened : openText others path = .text (unifyLineFeeds (front ++ other)) := by
    simp only [openText, other_held, Status.content?, Text.Utf8.decode_encode]
  exact standard_run_of_bodies opened other_opened (is_front.split_eq body)
    (is_front.split_eq other) skipped mode

/-- A front matter with a list that is not closed. -/
def unclosedFront : List Char := "\ufeff---\r\na: [\r\n---\r\n".toList

/-- A body that looks like another front matter. -/
def frontLikeBody : List Char := "---\nmeta: x\u2028---\n".toList

theorem run_ignores_body_unclosed :
    IsFront unclosedFront "---\r\n".toList "a: [\r\n".toList "---\r\n".toList ∧
      (standard ["required_fields"]).run (fun _ => .file (encode (unclosedFront ++ [])))
          .comprehensive ⟨0, ["b.md"]⟩ =
        (standard ["required_fields"]).run
          (fun _ => .file (encode (unclosedFront ++ frontLikeBody))) .comprehensive
          ⟨0, ["b.md"]⟩ ∧
      ((standard ["required_fields"]).run (fun _ => .file (encode (unclosedFront ++ [])))
        .comprehensive ⟨0, ["b.md"]⟩).toOption.map (·.issues.map (·.line)) = some [some 3] := by
  have delimits : FrontMatter.Delimits "---\r\n".toList :=
    FrontMatter.isDelimiter_iff.mp (by decide)
  have is_front :
      IsFront unclosedFront "---\r\n".toList "a: [\r\n".toList "---\r\n".toList := by
    refine ⟨⟨by decide, delimits, delimits, ?_⟩, by decide⟩
    intro line member
    have content_lines : Text.lines "a: [\r\n".toList = ["a: [\r\n".toList] := by decide
    rw [content_lines] at member
    obtain rfl := List.mem_singleton.mp member
    rw [← FrontMatter.isDelimiter_iff]
    decide
  obtain ⟨-, same⟩ := run_ignores_body is_front
  refine ⟨is_front, ?_, by decide +kernel⟩
  exact same (fun _ => .file _) (fun _ => .file _) ⟨0, ["b.md"]⟩ [] frontLikeBody rfl rfl
    ["required_fields"] .comprehensive

end Suite

end BundleLint
