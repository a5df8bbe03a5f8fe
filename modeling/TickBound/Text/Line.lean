/-!
# Lines of a text

A line ends at a line feed, a carriage return, both together, or one of the other line and page
separators. The last line needs no end, and an end does not begin a further line.
-/

namespace TickBound

namespace Text

/-- The characters that end a line. -/
def isLineEnd (c : Char) : Bool :=
  let n := c.toNat
  (0x0A ≤ n && n ≤ 0x0D) || (0x1C ≤ n && n ≤ 0x1E) || n == 0x85 || n == 0x2028 || n == 0x2029

/-- Puts a character in front of the first line. -/
def consLine (c : Char) : List (List Char) → List (List Char)
  | [] => [[c]]
  | line :: more => (c :: line) :: more

def lines : List Char → List (List Char)
  | [] => []
  | '\r' :: '\n' :: rest => [] :: lines rest
  | c :: rest => if isLineEnd c then [] :: lines rest else consLine c (lines rest)

/-- The parts of a line between occurrences of a separator; always one more than there are separators. -/
def splitAt (sep : Char) : List Char → List (List Char)
  | [] => [[]]
  | c :: rest => if c = sep then [] :: splitAt sep rest else consLine c (splitAt sep rest)

/-- The last `n` of a list's elements. -/
def lastOnes {α : Type} (n : Nat) (xs : List α) : List α :=
  xs.drop (xs.length - n)

/-- Joins lines with line feeds between them. -/
def joinLines (ls : List (List Char)) : List Char :=
  List.intercalate ['\n'] ls

end Text

end TickBound
