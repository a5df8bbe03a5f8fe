/-!
# Words of a command line

A command line is split at blanks. Quotes keep blanks inside a word: single quotes take everything
literally, and between double quotes a backslash escapes the double quote and itself only. Outside of
quotes a backslash takes the next character literally.
-/

namespace TickBound

namespace Command

inductive WordFault where
  | unclosedQuote
  | nothingEscaped
  deriving DecidableEq

def WordFault.message : WordFault → String
  | unclosedQuote => "No closing quotation"
  | nothingEscaped => "No escaped character"

/-- Where the splitter stands. -/
inductive Position where
  | between
  | bare
  | single
  | double
  | escaped
  | escapedInDouble

/-- Space, tab, carriage return and line feed separate words. -/
def isSeparator (c : Char) : Bool :=
  c = ' ' || c = '\t' || c = '\r' || c = '\n'

/-- Puts a character in front of the first word. -/
def consWord (c : Char) : List (List Char) → List (List Char)
  | [] => [[c]]
  | word :: more => (c :: word) :: more

/-- The words of the rest of a command line. Inside of a word the first of them is the rest of that
word; between words it is a new one. -/
def wordsFrom : Position → List Char → Except WordFault (List (List Char))
  | .between, [] => .ok []
  | .between, c :: rest =>
      if isSeparator c then wordsFrom .between rest
      else if c = '\'' then wordsFrom .single rest
      else if c = '"' then wordsFrom .double rest
      else if c = '\\' then wordsFrom .escaped rest
      else (wordsFrom .bare rest).map (consWord c)
  | .bare, [] => .ok [[]]
  | .bare, c :: rest =>
      if isSeparator c then (wordsFrom .between rest).map ([] :: ·)
      else if c = '\'' then wordsFrom .single rest
      else if c = '"' then wordsFrom .double rest
      else if c = '\\' then wordsFrom .escaped rest
      else (wordsFrom .bare rest).map (consWord c)
  | .single, [] => .error .unclosedQuote
  | .single, c :: rest =>
      if c = '\'' then wordsFrom .bare rest else (wordsFrom .single rest).map (consWord c)
  | .double, [] => .error .unclosedQuote
  | .double, c :: rest =>
      if c = '"' then wordsFrom .bare rest
      else if c = '\\' then wordsFrom .escapedInDouble rest
      else (wordsFrom .double rest).map (consWord c)
  | .escaped, [] => .error .nothingEscaped
  | .escaped, c :: rest => (wordsFrom .bare rest).map (consWord c)
  | .escapedInDouble, [] => .error .nothingEscaped
  | .escapedInDouble, c :: rest =>
      if c = '"' || c = '\\' then (wordsFrom .double rest).map (consWord c)
      else (wordsFrom .double rest).map fun ws => consWord '\\' (consWord c ws)

def words (line : List Char) : Except WordFault (List (List Char)) :=
  wordsFrom .between line

end Command

end TickBound
