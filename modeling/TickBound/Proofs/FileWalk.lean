import TickBound.Proofs.Measurement

/-!
# Following a path name

A path name leads to a place step by step: a step stays, goes up, enters what lies under its name or goes
on with the target of a link. Resolving a path name finds the place that it leads to, with at most the
number of links that may be followed.
-/

namespace TickBound

namespace FileTree

/-- The step asks for no other place, only for a directory. -/
def Stays (step : String) : Prop :=
  step = "" ∨ step = "."

def IsName (step : String) : Prop :=
  ¬ Stays step ∧ step ≠ ".." ∧ step.utf8ByteSize ≤ longestName

/-- Steps lead from a place to another one, with this number of links on the way. Each step is taken in a
directory. -/
inductive Leads (tree : FileTree) : Nat → List String → Place → Place → Prop
  | done {place : Place} : Leads tree 0 [] place place
  | stay {links : Nat} {step : String} {rest : List String} {place target : Place}
      (directory : tree.isDirectory place = true) (stays : Stays step)
      (further : Leads tree links rest place target) : Leads tree links (step :: rest) place target
  | up {links : Nat} {rest : List String} {place target : Place}
      (directory : tree.isDirectory place = true)
      (further : Leads tree links rest place.dropLast target) :
      Leads tree links (".." :: rest) place target
  | enter {links : Nat} {name : String} {rest : List String} {place target : Place} {node : FileNode}
      (directory : tree.isDirectory place = true) (named : IsName name)
      (found : tree.nodeAt? (place ++ [name]) = some node) (plain : ∀ text, node ≠ .link text)
      (further : Leads tree links rest (place ++ [name]) target) :
      Leads tree links (name :: rest) place target
  | follow {links : Nat} {name text : String} {rest : List String} {place target : Place}
      (directory : tree.isDirectory place = true) (named : IsName name)
      (found : tree.nodeAt? (place ++ [name]) = some (.link text))
      (further : Leads tree links (steps text ++ rest) (startOf text place) target) :
      Leads tree (links + 1) (name :: rest) place target

/-- The path name leads to a regular file with these bytes. -/
def Opens (tree : FileTree) (path : String) (bytes : List UInt8) : Prop :=
  path ≠ "" ∧ path.utf8ByteSize < longestPath ∧
    ∃ links ≤ mostLinks, ∃ place,
      Leads tree links (steps path) (startOf path tree.here) place ∧
        tree.nodeAt? place = some (.file bytes)

variable {tree : FileTree} {links : Nat} {step name text : String} {ss rest : List String}
  {place target : Place} {node : FileNode}

/-! ## One step of a walk -/

theorem walk_nil (tree : FileTree) (links : Nat) (place : Place) :
    walk tree links [] place = .ok place := by
  cases links <;> rfl

theorem walk_stay (directory : tree.isDirectory place = true) (stays : Stays step) :
    walk tree links (step :: rest) place = walk tree links rest place := by
  rcases stays with rfl | rfl <;> cases links <;> simp [walk, walkWith, directory]

theorem walk_up (directory : tree.isDirectory place = true) :
    walk tree links (".." :: rest) place = walk tree links rest place.dropLast := by
  have short : ¬ longestName < ("..").utf8ByteSize := by decide
  cases links <;> simp [walk, walkWith, directory, short]

theorem walk_enter (directory : tree.isDirectory place = true) (named : IsName name)
    (found : tree.nodeAt? (place ++ [name]) = some node) (plain : ∀ text, node ≠ .link text) :
    walk tree links (name :: rest) place = walk tree links rest (place ++ [name]) := by
  obtain ⟨moves, down, short⟩ := named
  have other : ¬ longestName < name.utf8ByteSize := Nat.not_lt.mpr short
  rw [Stays, not_or] at moves
  cases node with
  | link text => exact absurd rfl (plain text)
  | file bytes => cases links <;> simp [walk, walkWith, directory, moves, down, other, found]
  | directory => cases links <;> simp [walk, walkWith, directory, moves, down, other, found]

theorem walk_follow (directory : tree.isDirectory place = true) (named : IsName name)
    (found : tree.nodeAt? (place ++ [name]) = some (.link text)) :
    walk tree (links + 1) (name :: rest) place =
      walk tree links (steps text ++ rest) (startOf text place) := by
  obtain ⟨moves, down, short⟩ := named
  have other : ¬ longestName < name.utf8ByteSize := Nat.not_lt.mpr short
  rw [Stays, not_or] at moves
  simp [walk, walkWith, directory, moves, down, other, found]

/-! ## Whole walks -/

/-- More links than there are on the way make no difference. -/
theorem walk_of_leads (h : Leads tree links ss place target) {most : Nat} (few : links ≤ most) :
    walk tree most ss place = .ok target := by
  induction h generalizing most with
  | done => exact walk_nil tree most _
  | stay directory stays further ih => rw [walk_stay directory stays, ih few]
  | up directory further ih => rw [walk_up directory, ih few]
  | enter directory named found plain further ih => rw [walk_enter directory named found plain, ih few]
  | follow directory named found further ih =>
      cases most with
      | zero => exact absurd few (by omega)
      | succ most => rw [walk_follow directory named found, ih (by omega)]

/-- A named entry of a directory is entered, or the link under the name is followed. -/
theorem leads_of_entry {onLink : String → List String → Place → Except FileError Place}
    (directory : tree.isDirectory place = true) (named : IsName name)
    (followed : ∀ text rest place target, onLink text rest place = .ok target →
      ∃ own < links, Leads tree own (steps text ++ rest) (startOf text place) target)
    (entered : ∀ place, walkWith tree onLink rest place = .ok target →
      ∃ own ≤ links, Leads tree own rest place target)
    (h : (match tree.nodeAt? (place ++ [name]) with
      | none => Except.error FileError.missing
      | some (.link text) => onLink text rest place
      | some _ => walkWith tree onLink rest (place ++ [name])) = .ok target) :
    ∃ own ≤ links, Leads tree own (name :: rest) place target := by
  cases found : tree.nodeAt? (place ++ [name]) with
  | none =>
      rw [found] at h
      cases h
  | some node =>
      rw [found] at h
      cases node with
      | link text =>
          obtain ⟨own, few, further⟩ := followed text rest place target h
          exact ⟨own + 1, few, .follow directory named found further⟩
      | file bytes =>
          obtain ⟨own, few, further⟩ := entered _ h
          exact ⟨own, few, .enter directory named found (fun _ same => nomatch same) further⟩
      | directory =>
          obtain ⟨own, few, further⟩ := entered _ h
          exact ⟨own, few, .enter directory named found (fun _ same => nomatch same) further⟩

/-- Steps that are walked lead to the place if the links on the way do. -/
theorem leads_of_walkWith {onLink : String → List String → Place → Except FileError Place}
    (followed : ∀ text rest place target, onLink text rest place = .ok target →
      ∃ own < links, Leads tree own (steps text ++ rest) (startOf text place) target)
    (h : walkWith tree onLink ss place = .ok target) :
    ∃ own ≤ links, Leads tree own ss place target := by
  induction ss generalizing place with
  | nil =>
      cases h
      exact ⟨0, Nat.zero_le links, .done⟩
  | cons step rest ih =>
      unfold walkWith at h
      split at h
      · cases h
      · next directory =>
          have directory : tree.isDirectory place = true := by simpa using directory
          split at h
          · next stays =>
              have stays : Stays step := by simpa [Stays] using stays
              obtain ⟨own, few, further⟩ := ih h
              exact ⟨own, few, .stay directory stays further⟩
          · next moves =>
              have moves : ¬ Stays step := by simpa [Stays] using moves
              split at h
              · cases h
              · next short =>
                  have short : step.utf8ByteSize ≤ longestName := Nat.not_lt.mp short
                  split at h
                  · next up =>
                      subst up
                      obtain ⟨own, few, further⟩ := ih h
                      exact ⟨own, few, .up directory further⟩
                  · next down =>
                      exact leads_of_entry directory ⟨moves, down, short⟩ followed (fun _ => ih) h

/-- A walk that may follow this many links gets just where the steps lead with no more of them. -/
theorem walk_eq_ok :
    walk tree links ss place = .ok target ↔ ∃ own ≤ links, Leads tree own ss place target := by
  constructor
  · induction links generalizing ss place target with
    | zero => exact leads_of_walkWith fun _ _ _ _ same => nomatch same
    | succ links ih =>
        apply leads_of_walkWith
        intro text rest place target walked
        obtain ⟨own, few, further⟩ := ih walked
        exact ⟨own, by omega, further⟩
  · intro h
    obtain ⟨own, few, leads⟩ := h
    exact walk_of_leads leads few

variable {path : String} {bytes : List UInt8}

theorem resolve_eq_ok :
    tree.resolve path = .ok place ↔
      path ≠ "" ∧ path.utf8ByteSize < longestPath ∧
        ∃ links ≤ mostLinks, Leads tree links (steps path) (startOf path tree.here) place := by
  rw [← walk_eq_ok, resolve]
  by_cases empty : path = ""
  · simp [empty]
  · by_cases long : longestPath ≤ path.utf8ByteSize
    · have other : ¬ path.utf8ByteSize < longestPath := by omega
      simp [empty, long, other]
    · have other : path.utf8ByteSize < longestPath := by omega
      simp [empty, long, other]

/-- What is read at a place is the file that is there. -/
theorem fileAt_eq_ok :
    (match tree.nodeAt? place with
      | some (.file bytes) => Except.ok bytes
      | some _ => .error FileError.isDirectory
      | none => .error .missing) = .ok bytes ↔ tree.nodeAt? place = some (.file bytes) := by
  generalize tree.nodeAt? place = found
  cases found with
  | none => simp
  | some node => cases node <;> simp

/-- A file is read just where the path name leads to it. -/
theorem readFile_eq_ok : tree.readFile path = .ok bytes ↔ tree.Opens path bytes := by
  have found : tree.readFile path = .ok bytes ↔
      ∃ place, tree.resolve path = .ok place ∧ tree.nodeAt? place = some (.file bytes) := by
    rw [readFile]
    cases tree.resolve path with
    | error error => simp [bind, Except.bind]
    | ok place =>
        simp only [Except.ok.injEq, exists_eq_left']
        exact fileAt_eq_ok
  rw [found, Opens]
  simp only [resolve_eq_ok]
  constructor
  · intro h
    obtain ⟨place, ⟨named, short, links, few, leads⟩, node⟩ := h
    exact ⟨named, short, links, few, place, leads, node⟩
  · intro h
    obtain ⟨named, short, links, few, place, leads, node⟩ := h
    exact ⟨place, ⟨named, short, links, few, leads⟩, node⟩

/-- An image at an absolute path, and behind links to it from the working directory and from above. -/
example :
    let tree : FileTree :=
      { nodes := [(["corpus", "a.elf"], .file [0x7F]), (["work", "b"], .link "/corpus/a.elf"),
          (["c"], .link "work/b")]
        here := ["work"] }
    ∀ path ∈ ["/corpus/a.elf", "b", "../c", "/../c"], tree.readFile path = .ok [0x7F] := by
  decide +kernel

end FileTree

end TickBound
