import TickBound.Text.Lower
import TickBound.Text.Quoted

/-!
# Texts of data values

A data value may spell a text by code units, and then half of a pair can stand without its other half.
Such a half is no character. A text that comes from elsewhere has none.
-/

namespace TickBound

/-- What a data text is made of. -/
inductive Mark where
  | char (c : Char)
  /-- Half of a pair of code units, without the other half. -/
  | half (unit : Nat)
  deriving DecidableEq

structure DataText where
  marks : List Mark
  deriving DecidableEq

namespace DataText

def ofChars (cs : List Char) : DataText :=
  ⟨cs.map .char⟩

def ofString (s : String) : DataText :=
  ofChars s.toList

instance : Coe String DataText := ⟨ofString⟩

def isEmpty (text : DataText) : Bool :=
  text.marks.isEmpty

/-! ## Characters -/

/-- The characters of marks among which there is no half. -/
def wholeChars? : List Mark → Option (List Char)
  | [] => some []
  | .char c :: rest => (wholeChars? rest).map (c :: ·)
  | .half _ :: _ => none

/-- The characters of a text without halves. -/
def whole? (text : DataText) : Option (List Char) :=
  wholeChars? text.marks

/-- The character of a mark; a half has none and shows as U+FFFD. -/
def shownMark : Mark → Char
  | .char c => c
  | .half _ => '\uFFFD'

/-- The text with U+FFFD for every half. -/
def chars (text : DataText) : List Char :=
  text.marks.map shownMark

def shown (text : DataText) : String :=
  String.ofList text.chars

theorem wholeChars?_map_char (cs : List Char) : wholeChars? (cs.map .char) = some cs := by
  induction cs with
  | nil => rfl
  | cons c cs ih => simp [wholeChars?, ih]

theorem whole?_ofChars (cs : List Char) : (ofChars cs).whole? = some cs :=
  wholeChars?_map_char cs

theorem chars_ofChars (cs : List Char) : (ofChars cs).chars = cs := by
  unfold ofChars chars
  induction cs with
  | nil => rfl
  | cons c cs ih => simpa [shownMark] using ih

/-- Two texts from elsewhere are the same data text only if they are the same. -/
theorem ofChars_inj {cs ds : List Char} (h : ofChars cs = ofChars ds) : cs = ds := by
  rw [← chars_ofChars cs, h, chars_ofChars]

/-! ## Quoting -/

/-- How a mark is written between quotes. -/
def quotedMark (quote : Char) : Mark → List Char
  | .char c => Text.quotedChar quote c
  | .half unit => '\\' :: 'u' :: Number.codeDigits 4 unit

/-- The quoted form of a text, in which halves are escaped. -/
def quote (text : DataText) : List Char :=
  let q := Text.quoteFor text.chars
  q :: (text.marks.flatMap (quotedMark q) ++ [q])

theorem quote_ofChars (cs : List Char) : (ofChars cs).quote = Text.quote cs := by
  unfold quote Text.quote
  rw [chars_ofChars]
  simp [ofChars, List.flatMap_map, quotedMark]

/-! ## Searching -/

/-- The characters between the halves. -/
def stretchesOf : List Mark → List (List Char)
  | [] => [[]]
  | .half _ :: rest => [] :: stretchesOf rest
  | .char c :: rest =>
      match stretchesOf rest with
      | [] => [[c]]
      | stretch :: more => (c :: stretch) :: more

def stretches (text : DataText) : List (List Char) :=
  stretchesOf text.marks

/-- A text occurs somewhere, in any letter case. A half is part of no word, and matches nothing. -/
def mentions (text : DataText) (sought : String) : Bool :=
  text.stretches.any fun stretch => Text.occursIn (Text.lower sought.toList) (Text.lower stretch)

end DataText

end TickBound
