import TickBound.Text.Letter

/-!
# Texts in small letters

Every capital becomes its small form. Two letters need more than a table of characters: the dotted
capital I becomes two characters, and a capital sigma at the end of a word becomes the final sigma.
-/

namespace TickBound

namespace Text

/-- The nearest letter that is not passed over has case. -/
def meetsCase (cs : List Char) : Bool :=
  match cs.dropWhile isPassedOver with
  | [] => false
  | c :: _ => hasCase c

/-- The small form of `c` between the text `before` it, nearest character first, and the text `after`. -/
def smallForm (before : List Char) (c : Char) (after : List Char) : List Char :=
  if c = 'Σ' then
    if meetsCase before && !meetsCase after then ['ς'] else ['σ']
  else if c = 'İ' then ['i', '\u0307']
  else [smallChar c]

/-- Small letters for the rest of a text, given what stands before it, nearest character first. -/
def lowerAfter (before : List Char) : List Char → List Char
  | [] => []
  | c :: rest => smallForm before c rest ++ lowerAfter (c :: before) rest

/-- A text in small letters. -/
def lower (cs : List Char) : List Char :=
  lowerAfter [] cs

/-- The first text occurs somewhere in the second. -/
def occursIn (sought : List Char) : List Char → Bool
  | [] => sought.isEmpty
  | c :: rest => sought.isPrefixOf (c :: rest) || occursIn sought rest

end Text

end TickBound
