import TickBound.Json.Basic
import TickBound.Number.RealText

/-!
# Showing data values in messages

A string is shown as it is; inside arrays and objects strings are quoted. Absent and truth values are
shown as `None`, `True` and `False`.
-/

namespace TickBound

namespace Json

mutual

/-- A value inside of another one. -/
def shownInside : Json → List Char
  | null => "None".toList
  | bool true => "True".toList
  | bool false => "False".toList
  | int n => (Number.decimal n).toList
  | real x => (Number.realText Number.plainNames x).toList
  | string s => s.quote
  | array items => '[' :: (shownItems items ++ [']'])
  | object members => '{' :: (shownMembers members ++ ['}'])

def shownItems : List Json → List Char
  | [] => []
  | [item] => shownInside item
  | item :: more => shownInside item ++ ',' :: ' ' :: shownItems more

def shownMembers : List (DataText × Json) → List Char
  | [] => []
  | [(name, value)] => name.quote ++ ':' :: ' ' :: shownInside value
  | (name, value) :: more =>
      name.quote ++ ':' :: ' ' :: (shownInside value ++ ',' :: ' ' :: shownMembers more)

end

/-- A value in a message. -/
def display : Json → DataText
  | string s => s
  | value => .ofChars (shownInside value)

end Json

end TickBound
