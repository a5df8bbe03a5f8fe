import TickBound.Json.DataText

/-!
# Data values

The values that replies, engine output and engine options are made of. Integers and floating-point
numbers are kept apart, and the members of an object keep the order in which their names first came.
-/

namespace TickBound

inductive Json where
  | null
  | bool (value : Bool)
  | int (value : Int)
  | real (value : Float)
  | string (value : DataText)
  | array (items : List Json)
  | object (members : List (DataText × Json))

namespace Json

/-- The members of an object. -/
abbrev Members := List (DataText × Json)

namespace Members

/-- Gives a name its value: in place when the name is there, at the end when it is new. -/
def put : Members → DataText → Json → Members
  | [], name, value => [(name, value)]
  | (other, old) :: rest, name, value =>
      if other = name then (name, value) :: rest else (other, old) :: put rest name value

/-- The members that a list of pairs leaves: of several values for a name the last one. -/
def ofPairs (pairs : List (DataText × Json)) : Members :=
  pairs.foldl (fun members pair => put members pair.1 pair.2) []

def get? : Members → DataText → Option Json
  | [], _ => none
  | (other, value) :: rest, name => if other = name then some value else get? rest name

def getD (members : Members) (name : DataText) (default : Json) : Json :=
  (get? members name).getD default

end Members

/-- Everything but null, false, zero and what is empty. -/
def isTruthy : Json → Bool
  | null => false
  | bool b => b
  | int n => n ≠ 0
  | real x => !(x == 0)
  | string s => !s.isEmpty
  | array items => !items.isEmpty
  | object members => !members.isEmpty

end Json

end TickBound
