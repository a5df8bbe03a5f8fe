/-!
# Levels of progress messages

Messages are of four levels. A level is named in any mixture of capitals and small letters.
-/

namespace TickBound

inductive Level where
  | debug
  | info
  | warning
  | error
  deriving DecidableEq

namespace Level

/-- Higher levels are more important. -/
def rank : Level → Nat
  | debug => 0
  | info => 1
  | warning => 2
  | error => 3

def name : Level → String
  | debug => "DEBUG"
  | info => "INFO"
  | warning => "WARNING"
  | error => "ERROR"

/-- All levels, the least important first. -/
def all : List Level := [debug, info, warning, error]

/-- The capital of a letter. Beyond ASCII only the dotless i has a capital that occurs in the name of a
level. -/
def capital (c : Char) : Char :=
  if c = 'ı' then 'I' else c.toUpper

def ofName? (text : String) : Option Level :=
  all.find? fun level => level.name.toList == text.toList.map capital

/-- A message of level `message` is shown when messages from `threshold` on are. -/
def shows (threshold message : Level) : Bool :=
  threshold.rank ≤ message.rank

end Level

end TickBound
