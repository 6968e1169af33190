/-! Blank characters, trimming, and the division of a text into words. -/
namespace Waymark
namespace Text

/-- The characters with the Unicode property White_Space. -/
def isBlank (c : Char) : Bool :=
  let n := c.toNat
  (9 ≤ n && n ≤ 13) || n == 0x20 || n == 0x85 || n == 0xA0 || n == 0x1680 ||
    (0x2000 ≤ n && n ≤ 0x200A) || n == 0x2028 || n == 0x2029 || n == 0x202F || n == 0x205F ||
    n == 0x3000

def trimStart (cs : List Char) : List Char :=
  cs.dropWhile isBlank

/-- Drops the longest final segment all of whose elements satisfy `p`. -/
def dropEndWhile {α : Type} (p : α → Bool) (xs : List α) : List α :=
  (xs.reverse.dropWhile p).reverse

theorem dropEndWhile_length_le {α : Type} (p : α → Bool) (xs : List α) :
    (dropEndWhile p xs).length ≤ xs.length := by
  rw [dropEndWhile, List.length_reverse, ← @List.length_reverse _ xs]
  exact (List.dropWhile_sublist p).length_le

def trimEnd (cs : List Char) : List Char :=
  dropEndWhile isBlank cs

def trim (cs : List Char) : List Char :=
  trimEnd (trimStart cs)

theorem trim_length_le (cs : List Char) : (trim cs).length ≤ cs.length :=
  Nat.le_trans (dropEndWhile_length_le _ _) (List.dropWhile_sublist _).length_le

/-- Whether nothing but blank characters stands in `cs`. -/
def isBlankText (cs : List Char) : Bool :=
  cs.all isBlank

/-- The maximal runs of characters that are not blank, in order. -/
def words (cs : List Char) : List (List Char) :=
  (cs.splitOnP isBlank).filter fun w => !w.isEmpty

/-- Joins the pieces with one character between neighbours. -/
def joinWith (sep : Char) (pieces : List (List Char)) : List Char :=
  [sep].intercalate pieces

/-- The text filled up with spaces to a width. -/
def padded (width : Nat) (s : String) : String :=
  s ++ String.ofList (List.replicate (width - s.length) ' ')

/-- Lower-cases the letters `A` to `Z` and keeps every other character. -/
def asciiLower (cs : List Char) : List Char :=
  cs.map Char.toLower

end Text
end Waymark
