/-!
Characters: sets of them as lists of ranges of code points, both ends included; blanks, and trimming
them from both ends of a text; letters of either case, which only those from `a` to `z` have.
-/

namespace IspDriver.Text

abbrev CodeRanges : Type :=
  List (Nat × Nat)

namespace CodeRanges

def contains (ranges : CodeRanges) (c : Char) : Bool :=
  ranges.any fun (first, last) => first ≤ c.toNat && c.toNat ≤ last

/-- Whether each range ends before the next one begins. -/
def areApart : CodeRanges → Bool
  | [] => true
  | [(first, last)] => first ≤ last
  | (first, last) :: (next, nextLast) :: rest =>
      first ≤ last && last < next && areApart ((next, nextLast) :: rest)

/-- How many code points the ranges have, if they are apart. -/
def size (ranges : CodeRanges) : Nat :=
  ranges.foldl (fun total (first, last) => total + (last + 1 - first)) 0

end CodeRanges

/-- The characters with the White_Space property. -/
def whiteSpace : CodeRanges :=
  [(0x09, 0x0d), (0x20, 0x20), (0x85, 0x85), (0xa0, 0xa0), (0x1680, 0x1680), (0x2000, 0x200a),
    (0x2028, 0x2029), (0x202f, 0x202f), (0x205f, 0x205f), (0x3000, 0x3000)]

example : whiteSpace.areApart = true ∧ whiteSpace.size = 25 := by decide

def isBlank (c : Char) : Bool :=
  whiteSpace.contains c

/-- Drops the blanks before the first and after the last character that is none. -/
def trim (text : List Char) : List Char :=
  ((text.dropWhile isBlank).reverse.dropWhile isBlank).reverse

def foldCase (text : List Char) : List Char :=
  text.map Char.toLower

/-- Whether the texts differ in the case of letters at most. -/
def sameLetters (left right : List Char) : Bool :=
  foldCase left == foldCase right

end IspDriver.Text
