/-!
# Splitting and sorting

Texts split at a separator, and texts put in order.
-/

namespace BundleLint.Text

/-- The parts of a text between separators; there is one more part than separators. -/
def splitAt {α : Type} [BEq α] (separator : α) : List α → List (List α)
  | [] => [[]]
  | c :: rest =>
    if c == separator then [] :: splitAt separator rest
    else
      match splitAt separator rest with
      | [] => [[c]]
      | part :: parts => (c :: part) :: parts

/-- Puts a text in its place among texts in order. -/
def insertSorted {α : Type} (comesBefore : α → α → Bool) (text : α) : List α → List α
  | [] => [text]
  | first :: rest =>
    if comesBefore text first then text :: first :: rest
    else first :: insertSorted comesBefore text rest

/-- Texts in order, each as often as before. -/
def sorted {α : Type} (comesBefore : α → α → Bool) : List α → List α
  | [] => []
  | text :: rest => insertSorted comesBefore text (sorted comesBefore rest)

end BundleLint.Text
