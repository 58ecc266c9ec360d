import Paydesk.Text.Hex
import Paydesk.Text.Split

/-!
# Tables of code points

A property of characters is kept as rows of words. A word is a range: two code points in hexadecimal
digits with a minus sign between them, or one code point, which is a range of its own.
-/

namespace Paydesk.Text

/-- The code point that hexadecimal digits denote. -/
def codePoint (digits : List Char) : Nat :=
  digits.foldl (fun n c => 16 * n + (Hex.value? c).getD 0) 0

/-- The words of the rows, which blanks divide. -/
def words (rows : List String) : List (List Char) :=
  rows.flatMap fun row => splitOn ' ' row.toList

/-- Code points from the first to the last. -/
structure CodeRange where
  first : Nat
  last : Nat

namespace CodeRange

/-- The range that a word denotes. -/
def ofWord (word : List Char) : CodeRange :=
  match cut? '-' word with
  | some (first, last) => ⟨codePoint first, codePoint last⟩
  | none => ⟨codePoint word, codePoint word⟩

/-- The ranges of the rows. -/
def ofRows (rows : List String) : List CodeRange :=
  (words rows).map ofWord

def contains (r : CodeRange) (n : Nat) : Bool :=
  r.first ≤ n && n ≤ r.last

end CodeRange

/-- Whether a character lies in one of the ranges. -/
def inRanges (ranges : List CodeRange) (c : Char) : Bool :=
  ranges.any fun r => r.contains c.toNat

end Paydesk.Text
