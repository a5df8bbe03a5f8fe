import Mathlib.Data.List.Nodup
import TickBound.Proofs.CorpusFiles
import TickBound.Proofs.Fields
import TickBound.Proofs.Independence

/-!
# Names of entries

The path name of an entry is the one of its directory with the name of the entry behind it, and bringing
it into its one form leaves its components as they are. So an image has the name of the entry that it was
made of, however its directory is written, and different entries of a directory never have the same name
or the same path name.
-/

namespace TickBound

namespace Path

variable {cs : List Char}

/-! ## Parts and components -/

theorem parts_eq_splitAt (cs : List Char) : parts cs = Text.splitAt '/' cs := by
  induction cs with
  | nil => rfl
  | cons c cs ih =>
      rw [parts, Text.splitAt, ih]
      cases Text.splitAt '/' cs <;> rfl

theorem parts_append (cs ds : List Char) : parts (cs ++ '/' :: ds) = parts cs ++ parts ds := by
  simp only [parts_eq_splitAt, Text.splitAt_eq_splitOn, List.splitOn_append_cons_self]

theorem parts_of_plain (plain : '/' ∉ cs) : parts cs = [cs] := by
  rw [parts_eq_splitAt, Text.splitAt_eq_splitOn, List.splitOn_eq_singleton plain]

/-- No part contains a slash. -/
theorem plain_of_mem_parts {part : List Char} (h : part ∈ parts cs) : '/' ∉ part := by
  induction cs generalizing part with
  | nil =>
      rw [parts, List.mem_singleton] at h
      simp [h]
  | cons c cs ih =>
      rw [parts] at h
      split at h
      · rcases List.mem_cons.mp h with rfl | later
        · exact List.not_mem_nil
        · exact ih later
      · next other =>
          split at h
          · next first more split =>
              rw [split, List.forall_mem_cons] at ih
              rcases List.mem_cons.mp h with rfl | later
              · rw [List.mem_cons, not_or]
                exact ⟨Ne.symm other, ih.1⟩
              · exact ih.2 part later
          · rw [List.mem_singleton] at h
            simp [h, Ne.symm other]

theorem components_append (cs ds : List Char) :
    components (cs ++ '/' :: ds) = components cs ++ components ds := by
  rw [components, parts_append, List.filter_append]
  rfl

/-- Components without slashes come back as they were put together. -/
theorem components_intercalate {texts : List (List Char)}
    (named : ∀ text ∈ texts, isComponent text = true) (plain : ∀ text ∈ texts, '/' ∉ text) :
    components (List.intercalate ['/'] texts) = texts := by
  by_cases none : texts = []
  · rw [none]
    rfl
  · rw [components, parts_eq_splitAt, Text.splitAt_intercalate none plain,
      List.filter_eq_self.mpr named]

theorem components_root (cs ds : List Char) : components (root cs ++ ds) = components ds := by
  have slash (es : List Char) : components ('/' :: es) = components es := components_append [] es
  unfold root
  split
  · exact slash ds
  · exact (slash _).trans (slash ds)
  · exact slash ds
  · rfl

/-- A path name in its one form has the components that it had before. -/
theorem components_normal (path : String) :
    components (normal path).toList = components path.toList := by
  have same : components (List.intercalate ['/'] (components path.toList)) =
      components path.toList :=
    components_intercalate (fun text mem => (List.mem_filter.mp mem).2)
      fun text mem => plain_of_mem_parts (List.mem_filter.mp mem).1
  simp only [normal]
  split
  · next empty =>
      rw [List.isEmpty_iff, List.append_eq_nil_iff] at empty
      rw [empty.2] at same
      exact same
  · rw [String.toList_ofList, components_root, same]

theorem name_normal (path : String) : name (normal path) = name path := by
  rw [name, name, components_normal]

/-! ## Entries -/

/-- The text can be the name of an entry of a directory. -/
def IsEntryName (name : String) : Prop :=
  name ≠ "" ∧ '/' ∉ name.toList ∧ name ≠ "." ∧ name ≠ ".."

instance : DecidablePred IsEntryName :=
  fun _ => inferInstanceAs (Decidable (_ ∧ _))

/-- The path name of an entry ends in a slash and the name of the entry. -/
theorem exists_entry (directory name : String) :
    ∃ before, (entry directory name).toList = before ++ '/' :: name.toList := by
  unfold entry
  split
  · next ends =>
      obtain ⟨before, split⟩ := List.getLast?_eq_some_iff.mp ends
      exact ⟨before, by simp [split]⟩
  · exact ⟨directory.toList, by simp⟩

theorem name_entry {name : String} (named : IsEntryName name) (directory : String) :
    Path.name (entry directory name) = name := by
  obtain ⟨filled, plain, here, -⟩ := named
  obtain ⟨before, split⟩ := exists_entry directory name
  have component : isComponent name.toList = true := by
    have dot : name.toList ≠ ['.'] := fun same => here (String.toList_inj.mp same)
    simp [isComponent, filled, dot]
  have own : components name.toList = [name.toList] := by
    rw [components, parts_of_plain plain, List.filter_cons_of_pos component, List.filter_nil]
  rw [Path.name, split, components_append, own, List.getLast?_concat]
  exact String.ofList_toList

end Path

namespace Corpus

open FileTree (Entry)
open TickBound.Path (IsEntryName)

variable {files : FileTree} {directory : String} {entry : Entry} {found more : List Entry}

theorem name_imagePath (named : IsEntryName entry.name) (directory : String) :
    Path.name (imagePath directory entry) = entry.name := by
  rw [imagePath, Path.name_normal, Path.name_entry named]

/-- An image that is handed out is made of an entry, and the entries behind this one are left. -/
theorem made_of_next {path : String}
    (h : nextImage files directory found = .ok (some (path, more))) :
    ∃ before entry, found = before ++ entry :: more ∧ path = imagePath directory entry := by
  induction found with
  | nil => cases h
  | cons entry rest ih =>
      cases looked : isImage files directory entry with
      | error fault => simp [nextImage, looked, bind, Except.bind] at h
      | ok image =>
          cases image with
          | true =>
              simp only [nextImage, looked, bind, Except.bind, if_true, Except.ok.injEq,
                Option.some.injEq, Prod.mk.injEq] at h
              obtain ⟨rfl, rfl⟩ := h
              exact ⟨[], entry, rfl, rfl⟩
          | false =>
              simp only [nextImage, looked, bind, Except.bind] at h
              obtain ⟨before, own, rfl, made⟩ := ih h
              exact ⟨entry :: before, own, rfl, made⟩

/-- The images that are handed out are made of entries, in their order. -/
theorem HandsOut.made {paths : List String} {stop : Option Fault}
    (h : HandsOut files directory found paths stop) :
    ∃ chosen : List Entry, chosen.Sublist found ∧ paths = chosen.map (imagePath directory) := by
  induction h with
  | exhausted ends => exact ⟨[], List.nil_sublist _, rfl⟩
  | failed fails => exact ⟨[], List.nil_sublist _, rfl⟩
  | image first rest ih =>
      obtain ⟨before, entry, rfl, rfl⟩ := made_of_next first
      obtain ⟨chosen, sub, rfl⟩ := ih
      exact ⟨entry :: chosen, (sub.cons_cons entry).trans (List.sublist_append_right _ _), rfl⟩

/-- The image that is made of an entry has the name of this entry, and so has its row, however the
directory is written. The images of a directory have the names of the entries that they were made of, no
two of them have the same name or the same path name, and neither have any other two entries. -/
theorem images_named_by_entries :
    (∀ directory entry, IsEntryName entry.name →
      Path.name (imagePath directory entry) = entry.name ∧
      ∀ settings bench record,
        ((Bench.record settings (imagePath directory entry)).run bench).result = .ok record →
          record.name = entry.name) ∧
    ∀ files directory found, FileTree.listDirectory files directory = .ok found →
      (∀ entry ∈ found, IsEntryName entry.name) →
      found.Pairwise (fun entry other =>
        Path.name (imagePath directory entry) ≠ Path.name (imagePath directory other) ∧
          imagePath directory entry ≠ imagePath directory other) ∧
      ∀ paths stop, HandsOut files directory found paths stop →
        ∃ chosen : List Entry, chosen.Sublist found ∧ paths = chosen.map (imagePath directory) ∧
          paths.map Path.name = chosen.map Entry.name ∧ (paths.map Path.name).Nodup ∧
          paths.Nodup := by
  constructor
  · intro directory entry named
    refine ⟨name_imagePath named directory, fun settings bench record taken => ?_⟩
    obtain ⟨-, measured, bound, -, -, -, rfl⟩ := Bench.record_result_ok.mp taken
    dsimp only
    exact name_imagePath named directory
  · intro files directory found listed named
    have distinct := FileTree.nodup_of_listDirectory listed
    constructor
    · refine (List.pairwise_map.mp distinct).imp_of_mem fun mem mem' other => ?_
      have names := name_imagePath (named _ mem) directory
      have names' := name_imagePath (named _ mem') directory
      rw [names, names']
      exact ⟨other, fun same => other (names.symm.trans ((congrArg Path.name same).trans names'))⟩
    · intro paths stop handed
      obtain ⟨chosen, sub, rfl⟩ := handed.made
      have same : (chosen.map (imagePath directory)).map Path.name = chosen.map Entry.name := by
        rw [List.map_map]
        refine List.map_congr_left fun entry mem => ?_
        rw [Function.comp_apply]
        exact name_imagePath (named entry (sub.subset mem)) directory
      have apart : ((chosen.map (imagePath directory)).map Path.name).Nodup := by
        rw [same]
        exact distinct.sublist (sub.map _)
      exact ⟨chosen, sub, rfl, same, apart, List.Nodup.of_map _ apart⟩

def dotted : FileTree :=
  { nodes :=
      [(["c", "..."], .file Image.magic), (["c", " "], .file Image.magic), (["c", "sub", "a"], .file [])] }

def dottedEntries : List Entry :=
  [⟨"...", .file Image.magic⟩, ⟨" ", .file Image.magic⟩, ⟨"sub", .directory⟩]

theorem images_named_by_entries_dotted :
    dotted.listDirectory ".//c/./" = .ok dottedEntries ∧
      (∀ entry ∈ dottedEntries, IsEntryName entry.name) ∧
      HandsOut dotted ".//c/./" dottedEntries ["c/...", "c/ "] none ∧
      ∃ chosen : List Entry, chosen.Sublist dottedEntries ∧
        ["c/...", "c/ "] = chosen.map (imagePath ".//c/./") ∧
          ["c/...", "c/ "].map Path.name = chosen.map Entry.name := by
  have listed : dotted.listDirectory ".//c/./" = .ok dottedEntries := by rfl
  have named : ∀ entry ∈ dottedEntries, IsEntryName entry.name := by decide
  have handed : HandsOut dotted ".//c/./" dottedEntries ["c/...", "c/ "] none :=
    handsOut_walk dotted ".//c/./" dottedEntries
  obtain ⟨chosen, sub, made, names, -⟩ :=
    (images_named_by_entries.2 dotted ".//c/./" dottedEntries listed named).2 _ _ handed
  exact ⟨listed, named, handed, chosen, sub, made, names⟩

end Corpus

end TickBound
