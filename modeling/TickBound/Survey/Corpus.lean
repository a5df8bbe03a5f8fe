import TickBound.Fault.Basic

/-!
# The corpus

The images of a run are the files of one directory, in the order of its entries. An entry counts if it
is a regular file or a link that leads to one.
-/

namespace TickBound

namespace Corpus

def entries (files : FileTree) (directory : String) : Except Fault (List FileTree.Entry) :=
  if directory.toList.contains '\x00' then .error (.outside .nullInPath)
  else (files.listDirectory directory).mapError fun error => .corpus directory ⟨error, directory⟩

def isImage (files : FileTree) (directory : String) (entry : FileTree.Entry) : Except Fault Bool :=
  match entry.node with
  | .file _ => .ok true
  | .directory => .ok false
  | .link _ =>
      let path := Path.entry directory entry.name
      (files.isFile path).mapError fun error => .outside (.file ⟨error, path⟩)

/-- The path name of the first image among the entries, and the entries behind it. -/
def nextImage (files : FileTree) (directory : String) :
    List FileTree.Entry → Except Fault (Option (String × List FileTree.Entry))
  | [] => .ok none
  | entry :: more => do
      if ← isImage files directory entry then
        .ok (some (Path.normal (Path.entry directory entry.name), more))
      else nextImage files directory more

/-- The path names of the images among the entries. -/
def imagesAmong (files : FileTree) (directory : String) :
    List FileTree.Entry → Except Fault (List String)
  | [] => .ok []
  | entry :: more => do
      if ← isImage files directory entry then
        let rest ← imagesAmong files directory more
        .ok (Path.normal (Path.entry directory entry.name) :: rest)
      else imagesAmong files directory more

def images (files : FileTree) (directory : String) : Except Fault (List String) := do
  imagesAmong files directory (← entries files directory)

end Corpus

end TickBound
