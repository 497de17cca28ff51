/-!
# Lines

The lines of a text under the wide set of line ends, where a carriage return followed by a line
feed is one end. Lines keep their ends, so joining them gives the text back.
-/

namespace BundleLint.Text

/-- Characters that end a line on their own. -/
def isLineEnd (c : Char) : Bool :=
  c == '\n' || c == '\r' || c == '\x0b' || c == '\x0c' || c == '\x1c' || c == '\x1d' ||
    c == '\x1e' || c == '\u0085' || c == '\u2028' || c == '\u2029'

/-- Lines of a text, each with its end. -/
def lines : List Char → List (List Char)
  | [] => []
  | '\r' :: '\n' :: rest => ['\r', '\n'] :: lines rest
  | c :: rest =>
    if isLineEnd c then [c] :: lines rest
    else
      match lines rest with
      | [] => [[c]]
      | line :: others => (c :: line) :: others

/-- A line without its end. -/
def lineBody (line : List Char) : List Char :=
  line.takeWhile (fun c => !isLineEnd c)

/-- Turns each carriage return, with a line feed after it or without, into a line feed. -/
def unifyLineFeeds : List Char → List Char
  | [] => []
  | '\r' :: '\n' :: rest => '\n' :: unifyLineFeeds rest
  | c :: rest => (if c == '\r' then '\n' else c) :: unifyLineFeeds rest

end BundleLint.Text
