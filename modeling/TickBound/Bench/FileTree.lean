import TickBound.Bench.Path
import TickBound.Number.Numeral
import TickBound.Text.Quoted

/-!
# Files, directories and links

A tree of files below the root directory, and the place of the working directory in it. A path name is
resolved component by component, from the root directory if it begins with a slash and from the working
directory otherwise; links are followed, at most forty of them.
-/

namespace TickBound

inductive FileError where
  | missing
  | notDirectory
  | isDirectory
  | nameTooLong
  | tooManyLinks
  deriving DecidableEq

def FileError.number : FileError → Nat
  | missing => 2
  | notDirectory => 20
  | isDirectory => 21
  | nameTooLong => 36
  | tooManyLinks => 40

def FileError.wording : FileError → String
  | missing => "No such file or directory"
  | notDirectory => "Not a directory"
  | isDirectory => "Is a directory"
  | nameTooLong => "File name too long"
  | tooManyLinks => "Too many levels of symbolic links"

/-- A refused file operation and the path name that it was asked for. -/
structure FileFault where
  error : FileError
  path : String
  deriving DecidableEq

def FileFault.message (fault : FileFault) : String :=
  s!"[Errno {Number.decimal fault.error.number}] {fault.error.wording}: {Text.quoted fault.path}"

inductive FileNode where
  | file (bytes : List UInt8)
  | directory
  | link (target : String)

/-- A place in a tree: the names on the way to it from the root directory. -/
abbrev FileTree.Place := List String

/-- The nodes with their places, in the order in which they were made, and the place of the working
directory. A directory is also there when something below it is, the working directory included. -/
structure FileTree where
  nodes : List (FileTree.Place × FileNode)
  here : FileTree.Place := []

namespace FileTree

def empty : FileTree := { nodes := [] }

/-- The places that are spoken of. -/
def places (tree : FileTree) : List Place :=
  tree.nodes.map Prod.fst ++ [tree.here]

def nodeAt? (tree : FileTree) (place : Place) : Option FileNode :=
  match tree.nodes.reverse.find? fun entry => entry.1 = place with
  | some entry => some entry.2
  | none => if tree.places.any place.isPrefixOf then some .directory else none

/-- The name that follows a place on the way to another one below it. -/
def nameBelow? : Place → Place → Option String
  | [], name :: _ => some name
  | p :: place, q :: below => if p = q then nameBelow? place below else none
  | _, [] => none

/-- The names of a directory's entries, in the order in which they were first mentioned. -/
def entryNames (tree : FileTree) (place : Place) : List String :=
  tree.places.foldl (fun names below =>
    match nameBelow? place below with
    | some name => if names.contains name then names else names ++ [name]
    | none => names) []

def longestName : Nat := 255

def longestPath : Nat := 4096

/-- The largest number of links that are followed for one path name. -/
def mostLinks : Nat := 40

/-- A path name as the steps that it asks for: a name, the parent directory, or only that a directory be
there. -/
def steps (path : String) : List String :=
  (Path.parts path.toList).map String.ofList

/-- The directory in which the first step of a path name is taken. -/
def startOf (path : String) (here : Place) : Place :=
  if path.toList.head? = some '/' then [] else here

def isDirectory (tree : FileTree) (place : Place) : Bool :=
  match tree.nodeAt? place with
  | some .directory => true
  | _ => false

/-- Takes the steps of a path name. The root directory is above itself. A link is left to `onLink`, with
its target, the steps behind it and the directory that holds it. -/
def walkWith (tree : FileTree) (onLink : String → List String → Place → Except FileError Place) :
    List String → Place → Except FileError Place
  | [], place => .ok place
  | step :: rest, place =>
      if !tree.isDirectory place then .error .notDirectory
      else if step = "" || step = "." then walkWith tree onLink rest place
      else if longestName < step.utf8ByteSize then .error .nameTooLong
      else if step = ".." then walkWith tree onLink rest place.dropLast
      else
        match tree.nodeAt? (place ++ [step]) with
        | none => .error .missing
        | some (.link target) => onLink target rest place
        | some _ => walkWith tree onLink rest (place ++ [step])

/-- Takes the steps of a path name with at most `links` links on the way. -/
def walk (tree : FileTree) : Nat → List String → Place → Except FileError Place
  | 0 => walkWith tree fun _ _ _ => .error .tooManyLinks
  | links + 1 =>
      walkWith tree fun target rest place =>
        walk tree links (steps target ++ rest) (startOf target place)

def resolve (tree : FileTree) (path : String) : Except FileError Place :=
  if path.isEmpty then .error .missing
  else if longestPath ≤ path.utf8ByteSize then .error .nameTooLong
  else walk tree mostLinks (steps path) (startOf path tree.here)

def readFile (tree : FileTree) (path : String) : Except FileError (List UInt8) := do
  match tree.nodeAt? (← tree.resolve path) with
  | some (.file bytes) => .ok bytes
  | some _ => .error .isDirectory
  | none => .error .missing

/-- An entry of a directory: its name, and what is there under it. -/
structure Entry where
  name : String
  node : FileNode

def listDirectory (tree : FileTree) (path : String) : Except FileError (List Entry) := do
  let place ← tree.resolve path
  match tree.nodeAt? place with
  | some .directory =>
      .ok ((tree.entryNames place).filterMap fun name =>
        (tree.nodeAt? (place ++ [name])).map (Entry.mk name))
  | _ => .error .notDirectory

/-- Whether a path name leads to a regular file. A name that leads nowhere does not. -/
def isFile (tree : FileTree) (path : String) : Except FileError Bool :=
  match tree.readFile path with
  | .ok _ => .ok true
  | .error .missing => .ok false
  | .error .isDirectory => .ok false
  | .error e => .error e

end FileTree

end TickBound
