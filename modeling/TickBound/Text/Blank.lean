/-!
# Blank characters

The characters that surround a value without belonging to it, trimming at both ends, and the fields
between blanks.
-/

namespace TickBound

namespace Text

/-- White space: the controls U+0009 to U+000D, the information separators U+001C to U+001F, the next
line U+0085, and the spaces and separators of all widths. -/
def isBlank (c : Char) : Bool :=
  let n := c.toNat
  (0x09 ≤ n && n ≤ 0x0D) || (0x1C ≤ n && n ≤ 0x20) || n == 0x85 || n == 0xA0 || n == 0x1680 ||
    (0x2000 ≤ n && n ≤ 0x200A) || n == 0x2028 || n == 0x2029 || n == 0x202F || n == 0x205F ||
    n == 0x3000

/-- Drops the characters in `p` at both ends. -/
def trimBy (p : Char → Bool) (cs : List Char) : List Char :=
  ((cs.dropWhile p).reverse.dropWhile p).reverse

/-- Drops the blanks at both ends. -/
def trim (cs : List Char) : List Char :=
  trimBy isBlank cs

def trimmed (s : String) : String :=
  String.ofList (trim s.toList)

/-- The maximal runs of characters outside `p`, in order. -/
def fieldsBy (p : Char → Bool) : List Char → List (List Char)
  | [] => []
  | c :: rest =>
      if p c then fieldsBy p rest
      else
        match rest, fieldsBy p rest with
        | d :: _, field :: more => if p d then [c] :: field :: more else (c :: field) :: more
        | _, more => [c] :: more

/-- The blank-separated fields of a line. -/
def fields (cs : List Char) : List (List Char) :=
  fieldsBy isBlank cs

end Text

end TickBound
