import TickBound.Proofs.FileWalk
import TickBound.Proofs.SurveyYields

/-!
# The files of a corpus

A corpus hands out its images one at a time, and looks at an entry only when it comes to it. The images are
the entries that lead to a regular file, in the order of the directory. A link that leads nowhere is passed
over; one that cannot be followed to an end is not, and ends the corpus there. A directory that cannot be
listed is a fault of the settings, and is found out with the first image that is asked for.
-/

namespace TickBound

namespace FileTree

variable {tree : FileTree} {path : String} {bytes : List UInt8} {error : FileError}

/-! ## Looking at a path name -/

/-- Something other than a missing name keeps the path name from being followed. -/
def Blocked (tree : FileTree) (path : String) (error : FileError) : Prop :=
  tree.resolve path = .error error ∧ error ∈ [.notDirectory, .nameTooLong, .tooManyLinks]

instance (tree : FileTree) (path : String) : Decidable (∃ bytes, tree.Opens path bytes) :=
  decidable_of_iff ((tree.readFile path).isOk = true) <| by
    simp only [← readFile_eq_ok]
    cases tree.readFile path <;> simp [Except.isOk, Except.toBool]

theorem isFile_of_opens (h : tree.Opens path bytes) : tree.isFile path = .ok true := by
  rw [isFile, readFile_eq_ok.mpr h]

theorem isFile_of_blocked (h : tree.Blocked path error) : tree.isFile path = .error error := by
  obtain ⟨refused, kinds⟩ := h
  have unread : tree.readFile path = .error error := by
    rw [readFile, refused]
    rfl
  rw [isFile, unread]
  simp only [List.mem_cons, List.not_mem_nil, or_false] at kinds
  rcases kinds with rfl | rfl | rfl <;> rfl

/-- Reading a file is refused for the way to it, unless it is missing or something else is there. -/
theorem blocked_of_readFile (h : tree.readFile path = .error error) (there : error ≠ .missing)
    (plain : error ≠ .isDirectory) : tree.Blocked path error := by
  have refused : tree.resolve path = .error error := by
    rw [readFile] at h
    cases found : tree.resolve path with
    | error other =>
        rw [found] at h
        cases h
        rfl
    | ok place =>
        rw [found] at h
        simp only [bind, Except.bind] at h
        split at h
        · cases h
        · cases h
          exact absurd rfl plain
        · cases h
          exact absurd rfl there
  exact ⟨refused, by cases error <;> simp_all⟩

theorem isFile_of_other (closed : ∀ bytes, ¬ tree.Opens path bytes)
    (clear : ∀ error, ¬ tree.Blocked path error) : tree.isFile path = .ok false := by
  rw [isFile]
  cases read : tree.readFile path with
  | ok bytes => exact absurd (readFile_eq_ok.mp read) (closed bytes)
  | error error =>
      by_cases missing : error = .missing
      · rw [missing]
      · by_cases directory : error = .isDirectory
        · rw [directory]
        · exact absurd (blocked_of_readFile read missing directory) (clear error)

/-! ## Names of entries -/

theorem nodup_entryNames (tree : FileTree) (place : Place) : (tree.entryNames place).Nodup := by
  refine List.foldlRecOn (motive := List.Nodup) _ _ List.nodup_nil fun names distinct entry _ => ?_
  split
  · next name _ =>
      by_cases known : names.contains name
      · rwa [if_pos known]
      · rw [if_neg known]
        have fresh : name ∉ names := by simpa using known
        exact List.nodup_append.mpr
          ⟨distinct, List.pairwise_singleton _ name, fun a mem b last same => by simp_all⟩
  · exact distinct

/-- Names under which something is found keep their order. -/
theorem names_sublist (node? : String → Option FileNode) (names : List String) :
    ((names.filterMap fun name => (node? name).map (Entry.mk name)).map Entry.name).Sublist names := by
  induction names with
  | nil => exact .slnil
  | cons name more ih =>
      cases found : node? name with
      | none => simpa [found] using ih.cons name
      | some node => simpa [found] using ih.cons_cons name

/-- No two entries of a directory have the same name. -/
theorem nodup_of_listDirectory {found : List Entry} (h : tree.listDirectory path = .ok found) :
    (found.map Entry.name).Nodup := by
  rw [listDirectory] at h
  cases reached : tree.resolve path with
  | error other =>
      rw [reached] at h
      cases h
  | ok place =>
      rw [reached] at h
      simp only [bind, Except.bind] at h
      split at h
      · cases h
        exact (nodup_entryNames tree place).sublist (names_sublist _ _)
      · cases h

namespace Entry

/-- The entry of the directory is a regular file, or a link that leads to one. -/
def LeadsToFile (files : FileTree) (directory : String) (entry : Entry) : Prop :=
  match entry.node with
  | .file _ => True
  | .directory => False
  | .link _ => ∃ bytes, files.Opens (Path.entry directory entry.name) bytes

instance (files : FileTree) (directory : String) : DecidablePred (LeadsToFile files directory) :=
  fun entry => by
    unfold LeadsToFile
    split <;> infer_instance

def Refused (files : FileTree) (directory : String) (entry : Entry) (error : FileError) : Prop :=
  (∃ target, entry.node = .link target) ∧ files.Blocked (Path.entry directory entry.name) error

end Entry

end FileTree

namespace Corpus

open FileTree (Entry)

variable {files : FileTree} {directory : String} {entry : Entry} {found before more : List Entry}
  {error : FileError}

/-! ## Looking at an entry -/

theorem isImage_of_leadsToFile (h : entry.LeadsToFile files directory) :
    isImage files directory entry = .ok true := by
  obtain ⟨name, node⟩ := entry
  cases node with
  | file bytes => rfl
  | directory => exact h.elim
  | link target =>
      obtain ⟨bytes, opens⟩ := h
      simp only [isImage, FileTree.isFile_of_opens opens]
      rfl

theorem isImage_of_refused (h : entry.Refused files directory error) :
    isImage files directory entry =
      .error (.outside (.file ⟨error, Path.entry directory entry.name⟩)) := by
  obtain ⟨⟨target, link⟩, blocked⟩ := h
  simp only [isImage, link, FileTree.isFile_of_blocked blocked]
  rfl

theorem isImage_of_other (other : ¬ entry.LeadsToFile files directory)
    (looked : ∀ error, ¬ entry.Refused files directory error) :
    isImage files directory entry = .ok false := by
  obtain ⟨name, node⟩ := entry
  cases node with
  | file bytes => exact absurd trivial other
  | directory => rfl
  | link target =>
      have none : files.isFile (Path.entry directory name) = .ok false :=
        FileTree.isFile_of_other (fun bytes opens => other ⟨bytes, opens⟩)
          fun error blocked => looked error ⟨⟨target, rfl⟩, blocked⟩
      simp only [isImage, none]
      rfl

theorem not_refused_of_looked {image : Bool} (h : isImage files directory entry = .ok image)
    (error : FileError) : ¬ entry.Refused files directory error := by
  intro refused
  rw [isImage_of_refused refused] at h
  cases h

/-! ## Handing out images -/

def imagePath (directory : String) (entry : Entry) : String :=
  Path.normal (Path.entry directory entry.name)

/-- Asked for one image after another, the corpus hands out these among the entries. Then it has no more
of them, or fails. -/
inductive HandsOut (files : FileTree) (directory : String) :
    List Entry → List String → Option Fault → Prop
  | exhausted {found : List Entry} (ends : nextImage files directory found = .ok none) :
      HandsOut files directory found [] none
  | failed {found : List Entry} {fault : Fault}
      (fails : nextImage files directory found = .error fault) :
      HandsOut files directory found [] (some fault)
  | image {found more : List Entry} {path : String} {paths : List String} {stop : Option Fault}
      (first : nextImage files directory found = .ok (some (path, more)))
      (rest : HandsOut files directory more paths stop) :
      HandsOut files directory found (path :: paths) stop

theorem HandsOut.of_next {paths : List String} {stop : Option Fault}
    (h : HandsOut files directory more paths stop)
    (same : nextImage files directory found = nextImage files directory more) :
    HandsOut files directory found paths stop := by
  cases h with
  | exhausted ends => exact .exhausted (same.trans ends)
  | failed fails => exact .failed (same.trans fails)
  | image first rest => exact .image (same.trans first) rest

/-- The images are handed out in the order of the entries, each when it is asked for. -/
theorem handsOut_walk (files : FileTree) (directory : String) (found : List Entry) :
    HandsOut files directory found (walk files directory found).1 (walk files directory found).2 := by
  induction found with
  | nil => exact .exhausted rfl
  | cons entry more ih =>
      cases looked : isImage files directory entry with
      | error fault =>
          simp only [walk, looked]
          exact .failed (by simp [nextImage, looked, bind, Except.bind])
      | ok image =>
          simp only [walk, looked]
          cases image with
          | false => exact ih.of_next (by simp [nextImage, looked, bind, Except.bind])
          | true => exact .image (by simp [nextImage, looked, bind, Except.bind]) ih

/-- Entries none of which is refused contribute those of them that lead to a file. -/
theorem walk_append (looked : ∀ entry ∈ before, ∀ error, ¬ entry.Refused files directory error)
    (rest : List Entry) :
    walk files directory (before ++ rest) =
      ((before.filter fun entry => entry.LeadsToFile files directory).map (imagePath directory) ++
        (walk files directory rest).1, (walk files directory rest).2) := by
  induction before with
  | nil => rfl
  | cons entry more ih =>
      have further := ih fun entry mem => looked entry (List.mem_cons_of_mem _ mem)
      by_cases leads : entry.LeadsToFile files directory
      · simp [walk, isImage_of_leadsToFile leads, further, leads, imagePath]
      · have other := isImage_of_other leads (looked entry List.mem_cons_self)
        simp [walk, other, further, leads]

theorem entries_of_listing (plain : '\x00' ∉ directory.toList)
    (h : files.listDirectory directory = .ok found) : entries files directory = .ok found := by
  simp [entries, plain, h, mapError_ok]

theorem entries_of_unlisted (plain : '\x00' ∉ directory.toList)
    (h : files.listDirectory directory = .error error) :
    entries files directory = .error (.corpus directory ⟨error, directory⟩) := by
  simp [entries, plain, h, mapError_error]

theorem images_of_walk (listed : entries files directory = .ok found) {paths : List String}
    {stop : Option Fault} (walked : walk files directory found = (paths, stop)) :
    images files directory = stop.elim (.ok paths) .error := by
  rw [images_eq_yielded, yielded, listed]
  simp only [walked]

/-- The images of a directory are the entries that lead to a regular file, each handed out once, in the
order of the directory, and all others are passed over. But the first link that cannot be followed, as it
leads around, through what is no directory or over a name that is too long, ends the corpus with the fault
of the file system. A directory that cannot be listed is a fault of the settings at the first request. -/
theorem images_are_files (files : FileTree) {directory : String} (plain : '\x00' ∉ directory.toList) :
    (∀ found, files.listDirectory directory = .ok found →
      (found.map Entry.name).Nodup ∧
      ((∀ entry ∈ found, ∀ error, ¬ entry.Refused files directory error) →
        let paths := (found.filter fun entry => entry.LeadsToFile files directory).map
          (imagePath directory)
        HandsOut files directory found paths none ∧ images files directory = .ok paths) ∧
      ∀ before entry after error, found = before ++ entry :: after →
        (∀ other ∈ before, ∀ error, ¬ other.Refused files directory error) →
        entry.Refused files directory error →
          let paths := (before.filter fun other => other.LeadsToFile files directory).map
            (imagePath directory)
          let fault := Fault.outside (.file ⟨error, Path.entry directory entry.name⟩)
          HandsOut files directory found paths (some fault) ∧ images files directory = .error fault) ∧
    ∀ error, files.listDirectory directory = .error error →
      let fault := Fault.corpus directory ⟨error, directory⟩
      fault.kind? = some .settings ∧ images files directory = .error fault ∧
        ∀ (settings : Settings) (bench : Bench), bench.host.files = files →
          (Survey.next settings).run ⟨bench, .fresh directory⟩ =
            ⟨.error fault, [], ⟨bench, .ended⟩⟩ := by
  constructor
  · intro found listed
    have handed := handsOut_walk files directory found
    have whole := entries_of_listing plain listed
    refine ⟨FileTree.nodup_of_listDirectory listed, fun looked => ?_, ?_⟩
    · intro paths
      have walked : walk files directory found = (paths, none) := by
        simpa [walk, paths] using walk_append looked []
      rw [walked] at handed
      exact ⟨handed, images_of_walk whole walked⟩
    · intro before entry after error split looked refused paths fault
      have walked : walk files directory found = (paths, some fault) := by
        rw [split, walk_append looked]
        simp [walk, isImage_of_refused refused, paths, fault]
      rw [walked] at handed
      exact ⟨handed, images_of_walk whole walked⟩
  · intro error unlisted fault
    have failed : entries files directory = .error fault := entries_of_unlisted plain unlisted
    refine ⟨rfl, ?_, fun settings bench same => ?_⟩
    · rw [images, failed]
      rfl
    · subst same
      exact Survey.next_of_unreadable failed

/-- A directory with an image, a directory, a link to each, and a link that leads nowhere. -/
def mixed : FileTree :=
  { nodes := [(["c", "a.elf"], .file Image.magic), (["c", "sub", "b.elf"], .file Image.magic),
      (["c", "d"], .link "sub"), (["c", "e"], .link "../c/a.elf"), (["c", "f"], .link "gone")] }

theorem images_are_files_mixed :
    '\x00' ∉ ("c" : String).toList ∧ images mixed "c" = .ok ["c/a.elf", "c/e"] := by
  have plain : '\x00' ∉ ("c" : String).toList := by decide
  have listed : mixed.listDirectory "c" =
      .ok [⟨"a.elf", .file Image.magic⟩, ⟨"sub", .directory⟩, ⟨"d", .link "sub"⟩,
        ⟨"e", .link "../c/a.elf"⟩, ⟨"f", .link "gone"⟩] := by rfl
  refine ⟨plain, (((images_are_files mixed plain).1 _ listed).2.1 ?_).2⟩
  have looked (entry : Entry) (image : Bool) (h : isImage mixed "c" entry = .ok image) :=
    not_refused_of_looked h
  simp only [List.forall_mem_cons]
  exact ⟨looked _ true rfl, looked _ false rfl, looked _ false rfl, looked _ true rfl,
    looked _ false rfl, by simp⟩

def looping : FileTree :=
  { nodes := [(["c", "a.elf"], .file Image.magic), (["c", "b"], .link "b")] }

/-- A link that leads around is not passed over. -/
theorem images_of_looping :
    looping.listDirectory "c" = .ok [⟨"a.elf", .file Image.magic⟩, ⟨"b", .link "b"⟩] ∧
      images looping "c" = .error (.outside (.file ⟨.tooManyLinks, "c/b"⟩)) :=
  ⟨by rfl, by rfl⟩

end Corpus

end TickBound
