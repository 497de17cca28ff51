import BundleLint.Text.Split

/-!
# Paths

Paths in their plain form: leading slashes, of which exactly two count as two and more count as
one, and the components between slashes without empty ones and single dots. Double dots stay.
-/

namespace BundleLint

/-- A path. -/
structure Path where
  /-- Number of leading slashes, at most two. -/
  roots : Nat
  /-- Components; none is empty, a single dot, or contains a slash. -/
  parts : List String
  deriving DecidableEq, Repr

namespace Path

/-- Number of leading slashes that count. -/
def rootsOf (text : List Char) : Nat :=
  match (text.takeWhile (· == '/')).length with
  | 0 => 0
  | 2 => 2
  | _ => 1

/-- Reads a path. -/
def ofText (text : String) : Path :=
  let parts := (Text.splitAt '/' text.toList).filter fun part => !part.isEmpty && part != ['.']
  { roots := rootsOf text.toList, parts := parts.map String.ofList }

/-- Writes a path; the path without components is a dot. -/
def text (path : Path) : String :=
  let body := "/".intercalate path.parts
  if path.roots == 0 && path.parts.isEmpty then "."
  else String.ofList (List.replicate path.roots '/') ++ body

/-- A path taken from another one on. -/
def join (first second : Path) : Path :=
  if second.roots == 0 then { first with parts := first.parts ++ second.parts } else second

end Path

end BundleLint
