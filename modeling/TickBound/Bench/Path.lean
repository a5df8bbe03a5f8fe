/-!
# Path names

A path name is brought into one form: components of a single point and empty components disappear, and
so do trailing slashes; exactly two leading slashes stay two, any other number becomes one.
-/

namespace TickBound

namespace Path

/-- The parts between the slashes. -/
def parts : List Char → List (List Char)
  | [] => [[]]
  | c :: rest =>
      if c = '/' then [] :: parts rest
      else match parts rest with
        | part :: more => (c :: part) :: more
        | [] => [[c]]

/-- A part that names something: not empty and not a single point. -/
def isComponent (part : List Char) : Bool :=
  !part.isEmpty && part ≠ ['.']

def components (path : List Char) : List (List Char) :=
  (parts path).filter isComponent

/-- The leading slashes that the one form keeps. -/
def root : List Char → List Char
  | '/' :: '/' :: '/' :: _ => ['/']
  | '/' :: '/' :: _ => ['/', '/']
  | '/' :: _ => ['/']
  | _ => []

/-- A path name in its one form; the empty one is a single point. -/
def normal (path : String) : String :=
  let cs := path.toList
  let whole := root cs ++ List.intercalate ['/'] (components cs)
  if whole.isEmpty then "." else String.ofList whole

/-- The last component of a path name; empty if there is none. -/
def name (path : String) : String :=
  match (components path.toList).getLast? with
  | some component => String.ofList component
  | none => ""

/-- The path name of an entry of a directory. -/
def entry (directory name : String) : String :=
  if directory.toList.getLast? = some '/' then directory ++ name else directory ++ "/" ++ name

end Path

end TickBound
